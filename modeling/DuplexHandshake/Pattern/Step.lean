import DuplexHandshake.Pattern.TokenList
import DuplexHandshake.Role

/-!
# Message steps

One line of pattern text describes one message: an arrow for its direction, then the tokens. White
space may stand at both ends of the line and behind the arrow.
-/

namespace DuplexHandshake

/-- Which way a message travels. -/
inductive Direction where
  | toResponder
  | toInitiator
  deriving DecidableEq

namespace Direction

/-- The party that writes messages of this direction. -/
def writer : Direction → Role
  | toResponder => .initiator
  | toInitiator => .responder

def arrow : Direction → List Char
  | toResponder => ['-', '>']
  | toInitiator => ['<', '-']

end Direction

/-- One handshake message: which way it travels and what it carries, in order. -/
structure Step where
  direction : Direction
  tokens : List Token
  deriving DecidableEq

namespace Step

def ofTokenText (direction : Direction) (text : List Char) : Except HandshakeError Step :=
  if trim text = [] then .error .invalidPattern
  else do
    let tokens ← parseTokens text
    return { direction, tokens }

/-- Reads a step. A line without an arrow, or with nothing behind it, is no step at all; behind an
arrow the first item that is no token decides the failure. -/
def ofChars (line : List Char) : Except HandshakeError Step :=
  match trim line with
  | '-' :: '>' :: rest => ofTokenText .toResponder rest
  | '<' :: '-' :: rest => ofTokenText .toInitiator rest
  | _ => .error .invalidPattern

def parse (line : String) : Except HandshakeError Step :=
  ofChars line.toList

/-- A step as a line of pattern text: the arrow, a blank, the tokens. -/
def chars (s : Step) : List Char :=
  s.direction.arrow ++ ' ' :: renderTokens s.tokens

def text (s : Step) : String :=
  String.ofList s.chars

end Step

end DuplexHandshake
