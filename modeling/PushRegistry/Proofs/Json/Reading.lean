import PushRegistry.Json.Reader

/-!
# What plain documents are read as

Documents are built from the inside: a string without escapes is read as its characters, and a value
behind a name in braces as an object with one field. The room for lists and objects inside one
another grows by one with each pair of braces.

## Main definitions

* `Json.Reads`: what stands at the front of a text and what is left behind it.
* `Json.enclosed`: a text behind a name and an opening brace.

## Main results

* `Json.ofPoints_text`: the code points of a text are that text.
* `Json.reads_string`, `Json.reads_plain`, `Json.Reads.enclosed`: how values are read.
* `Json.Reads.read_eq`: what a whole document is read as.
-/

namespace PushRegistry.Json

/-! ### Strings -/

theorem char?_toNat (c : Char) : Text.char? c.toNat = some c := by
  rw [Text.char?, if_pos (show c.toNat.isValidChar from c.valid), Char.ofNat_toNat]

/-- The code points of a text are that text. -/
theorem ofPoints_text (s : String) : ofPoints (s.toList.map Char.toNat) = .text s := by
  have hchars : ∀ cs : List Char, (cs.map Char.toNat).mapM Text.char? = some cs := by
    intro cs
    induction cs with
    | nil => rfl
    | cons c cs ih => simp [char?_toNat, ih]
  simp only [ofPoints, hchars, String.ofList_toList]

/-- Whether a code point stands for itself between quotation marks. -/
def isPlain (n : Nat) : Bool := n != quoteMark && n != backslash && 0x20 ≤ n

theorem pointsOf_plain (opened : Nat) {ps rest : List Nat} (h : ps.all isPlain = true) :
    pointsOf opened (ps ++ quoteMark :: rest) = .ok (ps, rest) := by
  induction ps with
  | nil => rfl
  | cons c ps ih =>
    rw [List.all_cons, Bool.and_eq_true] at h
    obtain ⟨⟨hquote, hslash⟩, hcontrol⟩ : (c ≠ quoteMark ∧ c ≠ backslash) ∧ 0x20 ≤ c := by
      simpa [isPlain] using h.1
    rw [List.cons_append, pointsOf, if_neg (Nat.not_lt.mpr hcontrol), ih h.2]
    · rfl
    all_goals
      intros
      contradiction

theorem readString_eq {cs ps rest : List Nat}
    (h : pointsOf (cs.length + 1) cs = .ok (ps, rest)) :
    readString cs = .ok (ofPoints ps, ⟨rest, length_pointsOf h⟩) := by
  rw [readString]
  split
  · next ps' rest' h' =>
    cases h.symm.trans h'
    rfl
  · next fault h' => cases h.symm.trans h'

/-! ### Values -/

variable {room : Nat} {value : Json} {cs rest : List Nat}

/-- Whether a value stands at the front of a text, and what is left behind it. -/
def Reads (room : Nat) (cs : List Nat) (value : Json) (rest : List Nat) : Prop :=
  ∃ h, readValue room cs = .ok (value, ⟨rest, h⟩)

/-- A string without escapes. -/
theorem reads_string (room : Nat) {s : String} (h : (s.toList.map Char.toNat).all isPlain = true)
    (rest : List Nat) :
    Reads room (quoteMark :: (s.toList.map Char.toNat ++ quoteMark :: rest)) (text s) rest := by
  refine ⟨?_, ?_⟩
  · simp only [List.length_cons, List.length_append]
    omega
  · rw [readValue, readString_eq (pointsOf_plain _ h), ofPoints_text]
    rfl

/-- A constant or a numeral, which begins with no mark. -/
theorem reads_plain (room : Nat) {c : Nat} {h : rest.length < (c :: cs).length}
    (hmarks : c ∉ [quoteMark, openBracket, openBrace])
    (hplain : readPlain (c :: cs) = .ok (value, ⟨rest, h⟩)) : Reads room (c :: cs) value rest := by
  simp only [List.mem_cons, List.not_mem_nil, or_false, not_or] at hmarks
  refine ⟨h, ?_⟩
  rw [readValue, hplain]
  · exact fun _ hquote => hmarks.1 (List.cons.inj hquote).1
  · exact fun _ hbracket => hmarks.2.1 (List.cons.inj hbracket).1
  · exact fun _ hbrace => hmarks.2.2 (List.cons.inj hbrace).1

/-- A text behind a name and an opening brace. -/
def enclosed (name : String) (cs : List Nat) : List Nat :=
  openBrace :: quoteMark :: (name.toList.map Char.toNat ++ quoteMark :: colon :: cs)

/-- A value behind a name in braces is an object with one field. -/
theorem Reads.enclosed (h : Reads room cs value (closeBrace :: rest)) (name : String)
    (hname : (name.toList.map Char.toNat).all isPlain = true) (hfront : skip cs = cs) :
    Reads (room + 1) (enclosed name cs) (record [(name, value)]) rest := by
  obtain ⟨hlength, hvalue⟩ : Reads room (skip cs) value (closeBrace :: rest) := hfront.symm ▸ h
  have hskip := length_skip_le cs
  have hfields : ∀ h', readFields room
      (quoteMark :: (name.toList.map Char.toNat ++ quoteMark :: colon :: cs)) =
        .ok ([(.text name, value)], ⟨rest, h'⟩) := by
    intro h'
    rw [readFields, readString_eq (pointsOf_plain _ hname), ofPoints_text]
    change (readValue room (skip cs) >>= _) = _
    rw [hvalue]
    rfl
  have hbehind : rest.length <
      (quoteMark :: (name.toList.map Char.toNat ++ quoteMark :: colon :: cs)).length := by
    simp only [List.length_cons, List.length_append] at hlength ⊢
    omega
  change Reads (room + 1) (openBrace :: quoteMark :: _) _ _
  refine ⟨Nat.lt_succ_of_lt hbehind, ?_⟩
  rw [readValue]
  change (readFields room (quoteMark :: _) >>= _) = _
  rw [hfields hbehind]
  rfl

/-- A value with nothing behind it is the whole document. -/
theorem Reads.read_eq (h : Reads room cs value rest) (hfront : skip cs = cs)
    (hrest : skip rest = []) : read room cs = .ok value := by
  obtain ⟨_, hvalue⟩ : Reads room (skip cs) value rest := hfront.symm ▸ h
  rw [read, hvalue]
  simp only [bind, Except.bind, hrest]
  rfl

end PushRegistry.Json
