/-
Reading octets as UTF-8 where they may be anything.

`Utf8.decodeLossy` never fails: what is no UTF-8 is shown as U+FFFD, once for each longest
beginning of a character that is broken off.  It is one pass of a small machine, whose state is
the character under way.
-/
import CalendarText.Text.Octets

namespace CalendarText.Utf8

/-- A character under way: which octets may come next, how many follow after that one, and the
bits read so far. -/
structure Underway where
  low : UInt8
  high : UInt8
  more : Nat
  bits : Nat
  deriving DecidableEq, Repr

/-- What stands for broken text. -/
def replacement : Char := '\uFFFD'

/-- An octet where a character begins.  The second octet of some characters is bounded more
tightly, so that none is written longer than needed, none is a surrogate, and none lies beyond
the last code point. -/
def begin (b : UInt8) : List Char × Option Underway :=
  let n := b.toNat
  if n < 0x80 then ([Char.ofNat n], none)
  else if n < 0xC2 then ([replacement], none)
  else if n < 0xE0 then ([], some ⟨0x80, 0xBF, 0, n - 0xC0⟩)
  else if n < 0xF0 then
    ([], some ⟨if n = 0xE0 then 0xA0 else 0x80, if n = 0xED then 0x9F else 0xBF, 1, n - 0xE0⟩)
  else if n < 0xF5 then
    ([], some ⟨if n = 0xF0 then 0x90 else 0x80, if n = 0xF4 then 0x8F else 0xBF, 2, n - 0xF0⟩)
  else ([replacement], none)

/-- One octet: the characters that it completes or breaks off, and the one then under way. -/
def step : Option Underway → UInt8 → List Char × Option Underway
  | none, b => begin b
  | some c, b =>
    if c.low ≤ b ∧ b ≤ c.high then
      let bits := c.bits * 64 + b.toNat % 64
      if c.more = 0 then ([Char.ofNat bits], none)
      else ([], some ⟨0x80, 0xBF, c.more - 1, bits⟩)
    else
      let (text, next) := begin b
      (replacement :: text, next)

/-- The text of `data` behind a character under way. -/
def decodeFrom : Option Underway → Octets → List Char
  | none, [] => []
  | some _, [] => [replacement]
  | state, b :: data => (step state b).1 ++ decodeFrom (step state b).2 data

/-- The text of any octets. -/
def decodeLossy (data : Octets) : String :=
  String.ofList (decodeFrom none data)

/-- ASCII text is its own decoding. -/
theorem decodeFrom_ascii {data : Octets} (h : ∀ b ∈ data, b.toNat < 0x80) :
    decodeFrom none data = data.map fun b => Char.ofNat b.toNat := by
  induction data with
  | nil => rfl
  | cons b data ih =>
    have hb := h b (by simp)
    have rest := ih fun c hc => h c (by simp [hc])
    simp [decodeFrom, step, begin, hb, rest]

end CalendarText.Utf8
