import DuplexHandshake.Pattern.Token
import DuplexHandshake.Text.Blank

/-!
# Lists of tokens

Tokens are separated by commas, and each may have white space around it. A pre-message is a list that
may be empty and that names static keys only.
-/

namespace DuplexHandshake

/-- Reads tokens separated by commas, each with white space around it or none. The first item that
is no token decides the failure. -/
def parseTokens (text : List Char) : Except HandshakeError (List Token) :=
  (text.splitOn ',').mapM fun item => Token.ofChars (trim item)

def renderTokens (tokens : List Token) : List Char :=
  [',', ' '].intercalate (tokens.map Token.chars)

def parsePreMessageItem (item : List Char) : Except HandshakeError Token :=
  match Token.ofChars (trim item) with
  | .ok (.send .static) => .ok (.send .static)
  | .ok _ => .error .invalidPattern
  | .error e => .error e

/-- Reads a pre-message: nothing but white space, or static keys separated by commas. -/
def parsePreMessage (text : List Char) : Except HandshakeError (List Token) :=
  if trim text = [] then .ok [] else (text.splitOn ',').mapM parsePreMessageItem

end DuplexHandshake
