set_option autoImplicit false

namespace CodeSurvey.Text

/-- What is still owed of a character that has begun: how many octets, the bounds of the next one,
and the value so far. -/
structure Pending where
  owed : Nat
  low : Nat
  high : Nat
  value : Nat

/-- What an octet that stands first begins: a whole character, an unfinished one, or nothing. -/
def leadOctet (octet : Nat) : Option (Sum Char Pending) :=
  if octet < 0x80 then some (.inl (Char.ofNat octet))
  else if octet < 0xC2 then none
  else if octet < 0xE0 then some (.inr ⟨1, 0x80, 0xBF, octet - 0xC0⟩)
  -- Narrower bounds for the second octet keep overlong forms and surrogates out.
  else if octet = 0xE0 then some (.inr ⟨2, 0xA0, 0xBF, 0⟩)
  else if octet = 0xED then some (.inr ⟨2, 0x80, 0x9F, 0xD⟩)
  else if octet < 0xF0 then some (.inr ⟨2, 0x80, 0xBF, octet - 0xE0⟩)
  else if octet = 0xF0 then some (.inr ⟨3, 0x90, 0xBF, 0⟩)
  else if octet < 0xF4 then some (.inr ⟨3, 0x80, 0xBF, octet - 0xF0⟩)
  else if octet = 0xF4 then some (.inr ⟨3, 0x80, 0x8F, 4⟩)
  else none

def readFirst (octet : Nat) : Option Char × Option Pending :=
  match leadOctet octet with
  | some (.inl c) => (some c, none)
  | some (.inr pending) => (none, some pending)
  | none => (none, none)

/-- One octet read in a state. An octet that breaks off a character is read again as a first one. -/
def readOctet (pending : Option Pending) (octet : Nat) : Option Char × Option Pending :=
  match pending with
  | none => readFirst octet
  | some p =>
    if p.low ≤ octet ∧ octet ≤ p.high then
      let value := p.value * 64 + (octet - 0x80)
      if p.owed = 1 then (some (Char.ofNat value), none)
      else (none, some ⟨p.owed - 1, 0x80, 0xBF, value⟩)
    else readFirst octet

/-- The characters of a list of octets, with all that is not UTF-8 left out. Surrogates, overlong
forms and values above the last code point are not characters. -/
def decodeLossy (octets : List Nat) : List Char :=
  (octets.foldl
    (fun (found : List Char × Option Pending) octet =>
      match readOctet found.2 octet with
      | (some c, pending) => (c :: found.1, pending)
      | (none, pending) => (found.1, pending))
    ([], none)).1.reverse

/-- Whether a list of octets is UTF-8 throughout: then nothing was left out. -/
def isUtf8 (octets : List Nat) : Bool :=
  (decodeLossy octets).foldl (fun size c => size + c.utf8Size) 0 == octets.length

end CodeSurvey.Text
