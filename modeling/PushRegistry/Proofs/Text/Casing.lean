import Mathlib.Data.List.Forall2
import PushRegistry.Text.Case

/-!
# Words in any case

A word is looked for in a text whatever the case of its letters: the form of the text in one case is
compared with the word. Unicode has characters beyond ASCII whose forms are letters of ASCII, so the
texts that are found are not only those with each letter of the word in either case.

Which texts they are is the same argument for both cases. The form of a character comes from a table
of expansions, from a table of runs, or is the character itself. No expansion stays within the
characters that the words are made of, and of the runs only that of the letters of ASCII does and
that of one more sign. So a form within these characters is a single character, and the texts can be
compared with the word character by character.

## Main definitions

* `Text.Casing`: forms in one case, with the characters of ASCII that words are made of.
* `Text.Casing.Reads`: the characters that stand for a character of a word.
* `Text.Casing.lower`, `Text.Casing.upper`: the two cases.

## Main results

* `Text.Casing.flatMap_form_eq_iff`: the texts whose form is a word.
-/

namespace PushRegistry.Text

/-! ### Forms from the tables -/

theorem forall_ascii {p : Char → Prop} (h : ∀ n < 0x80, p (Char.ofNat n)) {c : Char}
    (hc : c.toNat < 0x80) : p c := by
  have hp := h c.toNat hc
  rwa [Char.ofNat_toNat] at hp

theorem toNat_ofNat {n : Nat} (h : n.isValidChar) : (Char.ofNat n).toNat = n := by
  rw [Char.ofNat, dif_pos h]
  rfl

theorem CaseRun.image?_eq_some_iff {r : CaseRun} {n m : Nat} :
    r.image? n = some m ↔
      r.first ≤ n ∧ n ≤ r.last ∧ (n - r.first) % r.stride = 0 ∧ m = r.image + (n - r.first) := by
  rw [image?]
  split
  · next h => simp [h, eq_comm]
  · next h =>
    refine iff_of_false nofun ?_
    rintro ⟨hfirst, hlast, hstride, -⟩
    exact h ⟨hfirst, hlast, hstride⟩

/-- Whether a run maps its members to characters beyond ASCII. -/
def CaseRun.LeavesAscii (r : CaseRun) : Prop :=
  0x80 ≤ r.image ∧ (r.image + (r.last - r.first) < 0xD800 ∨
    0xDFFF < r.image ∧ r.image + (r.last - r.first) < 0x110000)

instance (r : CaseRun) : Decidable r.LeavesAscii := inferInstanceAs (Decidable (_ ∧ _))

theorem CaseRun.LeavesAscii.le_toNat {r : CaseRun} (hr : r.LeavesAscii) {n m : Nat}
    (h : r.image? n = some m) : 0x80 ≤ (Char.ofNat m).toNat := by
  obtain ⟨hfirst, hlast, -, rfl⟩ := CaseRun.image?_eq_some_iff.mp h
  obtain ⟨himage, hvalid⟩ := hr
  have hchar : (r.image + (n - r.first)).isValidChar := by
    rw [Nat.isValidChar]
    omega
  rw [toNat_ofNat hchar]
  omega

section Tables

/-- What is found in a table stands in it. -/
theorem mem_of_lookup_eq_some {α β : Type} [BEq α] [LawfulBEq α] {table : List (α × β)} {a : α}
    {b : β} (h : table.lookup a = some b) : (a, b) ∈ table := by
  obtain ⟨before, after, rfl, -⟩ := List.lookup_eq_some_iff.mp h
  simp

variable {expansions : List (Nat × List Nat)} {runs few : List CaseRun} {c : Char}

/-- A form within a class of characters of ASCII is the character itself or comes from one of the
few runs that do not leave ASCII. -/
theorem caseForm_within {p : Char → Prop} (hascii : ∀ d, p d → d.toNat < 0x80)
    (hexpansions : ∀ e ∈ expansions, ∃ n ∈ e.2, ¬ p (Char.ofNat n))
    (hruns : ∀ r ∈ runs, r ∈ few ∨ r.LeavesAscii) (h : ∀ d ∈ caseForm expansions runs c, p d) :
    caseForm expansions runs c = [c] ∨ ∃ r ∈ few, r.first ≤ c.toNat ∧ c.toNat ≤ r.last := by
  rw [caseForm] at h ⊢
  split at h
  · next form hlookup =>
    obtain ⟨n, hn, hout⟩ := hexpansions _ (mem_of_lookup_eq_some hlookup)
    exact absurd (h _ (List.mem_map_of_mem hn)) hout
  · split at h
    · next m hrun =>
      obtain ⟨r, hr, hm⟩ := List.exists_of_findSome?_eq_some hrun
      rcases hruns r hr with hfew | hleaves
      · obtain ⟨hfirst, hlast, -⟩ := CaseRun.image?_eq_some_iff.mp hm
        exact .inr ⟨r, hfew, hfirst, hlast⟩
      · have hlt := hascii _ (h _ (List.mem_singleton.mpr rfl))
        have hle := hleaves.le_toNat hm
        omega
    · exact .inl rfl

/-- Of a table whose other runs lie beyond ASCII only the first run concerns the characters of
ASCII. -/
theorem caseForm_of_ascii (first : CaseRun) (hexpansions : ∀ e ∈ expansions, 0x80 ≤ e.1)
    (hruns : ∀ r ∈ runs, 0x80 ≤ r.first) (hc : c.toNat < 0x80) :
    caseForm expansions (first :: runs) c = [((first.image? c.toNat).map Char.ofNat).getD c] := by
  have hlookup : expansions.lookup c.toNat = none := by
    refine Option.eq_none_iff_forall_ne_some.mpr fun form hform => ?_
    have := hexpansions _ (mem_of_lookup_eq_some hform)
    omega
  have hrest : runs.findSome? (·.image? c.toNat) = none := by
    refine List.findSome?_eq_none_iff.mpr fun r hr => ?_
    refine Option.eq_none_iff_forall_ne_some.mpr fun m hm => ?_
    have hfirst := (CaseRun.image?_eq_some_iff.mp hm).1
    have := hruns r hr
    omega
  rw [caseForm, hlookup, List.findSome?_cons]
  cases first.image? c.toNat with
  | none => simp only [hrest, Option.map_none, Option.getD_none]
  | some m => rfl

end Tables

theorem lowerOf_of_ascii (c : Char) (h : c.toNat < 0x80) : lowerOf c = [c.toLower] := by
  have hletters : (((⟨0x41, 0x5A, 1, 0x61⟩ : CaseRun).image? c.toNat).map Char.ofNat).getD c =
      c.toLower :=
    forall_ascii (p := fun c => (((⟨0x41, 0x5A, 1, 0x61⟩ : CaseRun).image? c.toNat).map
      Char.ofNat).getD c = c.toLower) (by decide +kernel) h
  have hruns : ∀ r ∈ lowerRuns.tail, 0x80 ≤ r.first := by decide +kernel
  rw [← hletters]
  exact caseForm_of_ascii _ (by decide +kernel) hruns h

theorem upperOf_of_ascii (c : Char) (h : c.toNat < 0x80) : upperOf c = [c.toUpper] := by
  have hletters : (((⟨0x61, 0x7A, 1, 0x41⟩ : CaseRun).image? c.toNat).map Char.ofNat).getD c =
      c.toUpper :=
    forall_ascii (p := fun c => (((⟨0x61, 0x7A, 1, 0x41⟩ : CaseRun).image? c.toNat).map
      Char.ofNat).getD c = c.toUpper) (by decide +kernel) h
  have hruns : ∀ r ∈ upperRuns.tail, 0x80 ≤ r.first := by decide +kernel
  rw [← hletters]
  exact caseForm_of_ascii _ (by decide +kernel) hruns h

theorem lowerOf_kelvin : lowerOf '\u212A' = ['k'] := by decide +kernel

theorem upperOf_long_s : upperOf 'ſ' = ['S'] := by decide +kernel

/-! ### The two cases -/

/-- Forms of characters in one case. Those of ASCII have a single character as their form. Words
are made of some characters of ASCII that are their own forms, and a single sign beyond ASCII has
one of these as its form. -/
structure Casing where
  form : Char → List Char
  /-- The character that the form of one of ASCII is. -/
  fold : Char → Char
  /-- A character of ASCII in the other case. -/
  swap : Char → Char
  /-- Whether words are made of a character. -/
  within : Char → Bool
  letter : Char
  sign : Char
  form_ascii : ∀ c, c.toNat < 0x80 → form c = [fold c]
  swap_fold : ∀ c, c.toNat < 0x80 → c = fold c ∨ c = swap (fold c)
  fold_self : ∀ d, within d = true → d.toNat < 0x80 ∧ fold d = d
  fold_swap : ∀ d, within d = true → (swap d).toNat < 0x80 ∧ fold (swap d) = d
  form_sign : form sign = [letter]
  form_within : ∀ c, (∀ d ∈ form c, within d = true) → form c = [c] ∨ c.toNat < 0x80 ∨ c = sign

namespace Casing

/-- Whether a character stands for a character of a word: it is that character in either case of
ASCII, or the sign that stands for a letter. -/
def Reads (k : Casing) (d c : Char) : Prop := c = d ∨ c = k.swap d ∨ d = k.letter ∧ c = k.sign

theorem form_of_reads (k : Casing) {d c : Char} (hd : k.within d = true) (h : k.Reads d c) :
    k.form c = [d] := by
  rcases h with rfl | rfl | ⟨rfl, rfl⟩
  · obtain ⟨hascii, hfold⟩ := k.fold_self _ hd
    rw [k.form_ascii _ hascii, hfold]
  · obtain ⟨hascii, hfold⟩ := k.fold_swap d hd
    rw [k.form_ascii _ hascii, hfold]
  · exact k.form_sign

/-- A form within the characters that words are made of is a single one. -/
theorem exists_reads (k : Casing) {c : Char} (h : ∀ d ∈ k.form c, k.within d = true) :
    ∃ d, k.form c = [d] ∧ k.Reads d c := by
  rcases k.form_within c h with hself | hascii | rfl
  · exact ⟨c, hself, .inl rfl⟩
  · exact ⟨k.fold c, k.form_ascii c hascii, (k.swap_fold c hascii).imp_right .inl⟩
  · exact ⟨k.letter, k.form_sign, .inr (.inr ⟨rfl, rfl⟩)⟩

/-- The texts whose form is a word are those in which each character stands for that of the word. -/
theorem flatMap_form_eq_iff (k : Casing) {word cs : List Char}
    (hword : ∀ d ∈ word, k.within d = true) :
    cs.flatMap k.form = word ↔ List.Forall₂ k.Reads word cs := by
  induction cs generalizing word with
  | nil =>
    constructor
    · rintro rfl
      exact .nil
    · rintro ⟨⟩
      rfl
  | cons c cs ih =>
    rw [List.flatMap_cons]
    constructor
    · rintro rfl
      obtain ⟨hc, hcs⟩ := List.forall_mem_append.mp hword
      obtain ⟨d, hd, hreads⟩ := k.exists_reads hc
      rw [hd]
      exact .cons hreads ((ih hcs).mp rfl)
    · rintro (_ | ⟨hreads, hrest⟩)
      obtain ⟨hd, hword⟩ := List.forall_mem_cons.mp hword
      rw [k.form_of_reads hd hreads, (ih hword).mpr hrest]
      rfl

/-- What holds of the characters that stand for those of a word holds of all characters of a text
in which they do. -/
theorem forall_of_forall₂ {reads : Char → Char → Prop} {p : Char → Prop} {word cs : List Char}
    (h : List.Forall₂ reads word cs) (hp : ∀ d ∈ word, ∀ c, reads d c → p c) : ∀ c ∈ cs, p c := by
  induction h with
  | nil => exact nofun
  | cons hreads _ ih =>
    obtain ⟨hd, hword⟩ := List.forall_mem_cons.mp hp
    exact List.forall_mem_cons.mpr ⟨hd _ hreads, ih hword⟩

/-- Two ways to stand for the characters of a word that are the same for each of them are the same
for texts. -/
theorem forall₂_iff_of_mem {α : Type} {reads reads' : Char → α → Prop} {word : List Char}
    {cs : List α} (h : ∀ d ∈ word, ∀ c, reads d c ↔ reads' d c) :
    List.Forall₂ reads word cs ↔ List.Forall₂ reads' word cs := by
  constructor
  · intro hreads
    exact ((List.forall₂_and_left ..).mpr ⟨h, hreads⟩).imp fun d c hd => (hd.1 c).mp hd.2
  · intro hreads
    exact ((List.forall₂_and_left ..).mpr ⟨h, hreads⟩).imp fun d c hd => (hd.1 c).mpr hd.2

/-- Whether a character is one of ASCII and no capital letter. -/
def isLowered (c : Char) : Bool := c.toNat < 0x80 && !c.isUpper

theorem ascii_of_isLowered (c : Char) (h : isLowered c = true) : c.toNat < 0x80 := by
  simp only [isLowered, Bool.and_eq_true, decide_eq_true_eq] at h
  exact h.1

/-- Of the characters beyond ASCII only the kelvin sign has a form in small letters. -/
theorem lowerOf_within (c : Char) (h : ∀ d ∈ lowerOf c, isLowered d = true) :
    lowerOf c = [c] ∨ c.toNat < 0x80 ∨ c = '\u212A' := by
  let few : List CaseRun := [⟨0x41, 0x5A, 1, 0x61⟩, ⟨0x212A, 0x212A, 1, 0x6B⟩]
  have hexpansions : ∀ e ∈ lowerExpansions, ∃ n ∈ e.2, ¬ isLowered (Char.ofNat n) = true := by
    decide +kernel
  have hruns : ∀ r ∈ lowerRuns, r ∈ few ∨ r.LeavesAscii := by decide +kernel
  refine (caseForm_within ascii_of_isLowered hexpansions hruns h).imp_right ?_
  rintro ⟨r, hr, hfirst, hlast⟩
  simp only [few, List.mem_cons, List.not_mem_nil, or_false] at hr
  rcases hr with rfl | rfl <;> dsimp only at hfirst hlast
  · exact .inl (by omega)
  · exact .inr (Char.toNat_inj.mp (by change c.toNat = 0x212A; omega))

/-- Whether a character is one of ASCII, no small letter and none of the two letters that start the
forms of ligatures and of the sharp s. -/
def isRaised (c : Char) : Bool := c.toNat < 0x80 && !c.isLower && c != 'F' && c != 'S'

theorem ascii_of_isRaised (c : Char) (h : isRaised c = true) : c.toNat < 0x80 := by
  simp only [isRaised, Bool.and_eq_true, decide_eq_true_eq] at h
  exact h.1.1.1

/-- Of the characters beyond ASCII only the small i without its dot has a form in such capital
letters. -/
theorem upperOf_within (c : Char) (h : ∀ d ∈ upperOf c, isRaised d = true) :
    upperOf c = [c] ∨ c.toNat < 0x80 ∨ c = 'ı' := by
  let few : List CaseRun :=
    [⟨0x61, 0x7A, 1, 0x41⟩, ⟨0x131, 0x131, 1, 0x49⟩, ⟨0x17F, 0x17F, 1, 0x53⟩]
  have hexpansions : ∀ e ∈ upperExpansions, ∃ n ∈ e.2, ¬ isRaised (Char.ofNat n) = true := by
    decide +kernel
  have hruns : ∀ r ∈ upperRuns, r ∈ few ∨ r.LeavesAscii := by decide +kernel
  refine (caseForm_within ascii_of_isRaised hexpansions hruns h).imp_right ?_
  rintro ⟨r, hr, hfirst, hlast⟩
  simp only [few, List.mem_cons, List.not_mem_nil, or_false] at hr
  rcases hr with rfl | rfl | rfl <;> dsimp only at hfirst hlast
  · exact .inl (by omega)
  · exact .inr (Char.toNat_inj.mp (by change c.toNat = 0x131; omega))
  · obtain rfl : c = 'ſ' := Char.toNat_inj.mp (by change c.toNat = 0x17F; omega)
    exact absurd (h 'S' (by rw [upperOf_long_s]; exact List.mem_singleton.mpr rfl)) (by decide)

/-- Lower case forms, and words without capital letters. -/
def lower : Casing where
  form := lowerOf
  fold := Char.toLower
  swap := Char.toUpper
  within := isLowered
  letter := 'k'
  sign := '\u212A'
  form_ascii := lowerOf_of_ascii
  swap_fold _ h :=
    forall_ascii (p := fun c => c = c.toLower ∨ c = c.toLower.toUpper) (by decide +kernel) h
  fold_self d h :=
    ⟨ascii_of_isLowered d h, forall_ascii (p := fun d => isLowered d = true → d.toLower = d)
      (by decide +kernel) (ascii_of_isLowered d h) h⟩
  fold_swap d h :=
    forall_ascii (p := fun d => isLowered d = true →
      d.toUpper.toNat < 0x80 ∧ d.toUpper.toLower = d)
      (by decide +kernel) (ascii_of_isLowered d h) h
  form_sign := lowerOf_kelvin
  form_within := lowerOf_within

/-- Upper case forms, and words in capital letters that no ligature has in its form. -/
def upper : Casing where
  form := upperOf
  fold := Char.toUpper
  swap := Char.toLower
  within := isRaised
  letter := 'I'
  sign := 'ı'
  form_ascii := upperOf_of_ascii
  swap_fold _ h :=
    forall_ascii (p := fun c => c = c.toUpper ∨ c = c.toUpper.toLower) (by decide +kernel) h
  fold_self d h :=
    ⟨ascii_of_isRaised d h, forall_ascii (p := fun d => isRaised d = true → d.toUpper = d)
      (by decide +kernel) (ascii_of_isRaised d h) h⟩
  fold_swap d h :=
    forall_ascii (p := fun d => isRaised d = true →
      d.toLower.toNat < 0x80 ∧ d.toLower.toUpper = d)
      (by decide +kernel) (ascii_of_isRaised d h) h
  form_sign := upperOf_dotless_i
  form_within := upperOf_within

end Casing

end PushRegistry.Text
