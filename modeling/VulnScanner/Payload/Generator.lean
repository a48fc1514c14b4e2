import VulnScanner.Callback.Server
import VulnScanner.Payload.Catalog

/-!
# Making payloads

A payload is a definition whose marks have been replaced for one probe. Every probe has a random
token of its own and, if it uses the callback server, a secret of its own; random texts are drawn
from a source, one after the other, and no draw is used twice.
-/

namespace VulnScanner

/-- A payload for one probe. -/
structure Payload where
  definition : PayloadDefinition
  text : String
  randomToken : String
  callbackSecret : Option String := none
  callbackUrl : Option String := none
  /-- When the payload was made, in seconds; earlier interactions do not count. -/
  createdAt : Binary64
  deriving Repr

namespace Payload

/-- The expression that a response has to match, if there is one. The token stands in it as plain
text, and a dot matches line breaks too. -/
def pattern? [Platform] (p : Payload) : Option (Except PatternFault Regex.Pattern) :=
  (givenRegex p.definition.regex).map fun regex ↦
    let source := regexFor (Regex.escape p.randomToken.toList) regex
    (Regex.Pattern.compile { dotAll := true } source).mapError (⟨source, ·⟩)

end Payload

/-- A source of random texts: the text of each draw, by its number and the octets asked for. -/
abbrev TokenSource := Nat → Nat → String

/-- The source that gives the texts of a list and then counts in hexadecimal numerals. -/
def TokenSource.ofList (texts : List String) : TokenSource := fun number octets ↦
  match texts[number]? with
  | some text => text
  | none =>
    let digits := Nat.toDigits 16 (number - texts.length + 1)
    String.ofList (List.replicate (2 * octets - digits.length) '0' ++ digits)

/-- An operation that draws from a source and knows how many draws were made before. -/
abbrev Drawing := StateM Nat

/-- Draws a text of some octets. -/
def TokenSource.draw (source : TokenSource) (octets : Nat) : Drawing String :=
  modifyGet fun drawn ↦ (source drawn octets, drawn + 1)

/-- What a payload is wanted for. -/
structure PayloadRequest where
  vulnerability : VulnerabilityType
  interpretation : InterpretationEnvironment
  execution : ExecutionEnvironment
  /-- Payloads that use the callback server are preferred. -/
  useCallback : Bool := true

/-- A definition needs the callback server, and there is none. -/
structure NoCallbackServer where
  name : String
  deriving DecidableEq, Repr

/-- The message of the fault. -/
def NoCallbackServer.message (f : NoCallbackServer) : String :=
  s!"Payload {f.name} requires a callback server"

/-- Makes payloads from a catalog, with a callback server or without. -/
structure Generator where
  catalog : PayloadCatalog
  client : Option Callback.Client := none

namespace Generator

/-- Whether callbacks can be used. -/
def isCallbackEnabled (g : Generator) : Bool := g.client.isSome

/-- The octets of a random token. -/
def tokenOctets : Nat := 8

/-- The octets of a secret. -/
def secretOctets : Nat := 16

/-- The candidates for a request, in their order. -/
def candidates (g : Generator) (r : PayloadRequest) : List PayloadDefinition :=
  g.catalog.select r.interpretation r.execution r.vulnerability

/-- The definition that is chosen: the first that uses the callback server if that is wanted and
possible, else the first that does not use it. -/
def choose? (g : Generator) (r : PayloadRequest) : Option PayloadDefinition :=
  let found := g.candidates r
  let first := if r.useCallback && g.isCallbackEnabled then found.find? (·.usesCallback) else none
  first <|> found.find? (!·.usesCallback)

/-- Makes a payload. The token is drawn first, then the secret if one is needed. -/
def render (g : Generator) (source : TokenSource) (createdAt : Binary64)
    (d : PayloadDefinition) : Drawing (Except NoCallbackServer Payload) := do
  let token ← source.draw tokenOctets
  let text := Text.replaceIn tokenMark token d.template
  if !d.usesCallback then
    return .ok { definition := d, text := text, randomToken := token, createdAt := createdAt }
  match g.client with
  | none => return .error ⟨d.name⟩
  | some client =>
    let secret ← source.draw secretOctets
    let url := client.uri secret
    return .ok {
      definition := d
      text := Text.replaceIn urlMark url text
      randomToken := token
      callbackSecret := some secret
      callbackUrl := some url
      createdAt := createdAt }

/-- Makes the payload for a request, if there is one; otherwise nothing is drawn. -/
def generate (g : Generator) (source : TokenSource) (createdAt : Binary64) (r : PayloadRequest) :
    Drawing (Except NoCallbackServer (Option Payload)) := do
  match g.choose? r with
  | none => return .ok none
  | some d => return (← g.render source createdAt d).map some

end Generator
end VulnScanner
