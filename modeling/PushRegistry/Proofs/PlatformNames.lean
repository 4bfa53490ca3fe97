import PushRegistry.Proofs.Requests
import PushRegistry.Proofs.Text.Casing

/-!
# Names of platforms

A text names a platform if it is the word for it, each letter in either case of ASCII, with blanks
before and after. No other text does: the texts whose lower case form is a word with a `k` may hold
the kelvin sign, but the words for platforms have none.

## Main definitions

* `Platform.NamedBy`: the texts that name a platform.

## Main results

* `Text.exists_trimWith`, `Text.trimWith_append`: what trimming drops at the ends of a text.
* `Validation.platformNamed?_eq_some_iff`: the platform that is found in a text.
* `Validation.requirePlatform_cases`, `Validation.requirePlatform_language`: what comes of the name
  of a platform in a request.
-/

namespace PushRegistry

namespace Text

/-! ### Trimmed texts -/

section Trim

variable {p : Char → Bool} {before core after : List Char}

/-- Trimming drops characters of a class at both ends and nothing else. -/
theorem exists_trimWith (p : Char → Bool) (cs : List Char) :
    ∃ before after, cs = before ++ trimWith p cs ++ after ∧ (∀ c ∈ before, p c = true) ∧
      ∀ c ∈ after, p c = true := by
  have hrest : cs.dropWhile p =
      trimWith p cs ++ ((cs.dropWhile p).reverse.takeWhile p).reverse := by
    rw [trimWith, ← List.reverse_append, List.takeWhile_append_dropWhile, List.reverse_reverse]
  refine ⟨cs.takeWhile p, ((cs.dropWhile p).reverse.takeWhile p).reverse, ?_, ?_, ?_⟩
  · rw [List.append_assoc, ← hrest, List.takeWhile_append_dropWhile]
  · exact List.all_eq_true.mp List.all_takeWhile
  · exact fun c hc => List.all_eq_true.mp List.all_takeWhile c (List.mem_reverse.mp hc)

/-- A text without characters of a class remains when such characters around it are dropped. -/
theorem trimWith_append (hbefore : ∀ c ∈ before, p c = true) (hafter : ∀ c ∈ after, p c = true)
    (hcore : ∀ c ∈ core, p c = false) : trimWith p (before ++ core ++ after) = core := by
  have hkept : ∀ {cs : List Char}, (∀ c ∈ cs, p c = false) → cs.dropWhile p = cs := by
    intro cs hcs
    cases cs with
    | nil => rfl
    | cons c cs => exact List.dropWhile_cons_of_neg (by simp [hcs c])
  rw [trimWith, List.append_assoc, List.dropWhile_append_of_pos hbefore]
  cases core with
  | nil =>
    rw [List.nil_append, ← List.append_nil after, List.dropWhile_append_of_pos hafter]
    rfl
  | cons c core =>
    have hfront : (c :: core ++ after).dropWhile p = c :: core ++ after :=
      List.dropWhile_cons_of_neg (by simp [hcore c])
    rw [hfront, List.reverse_append,
      List.dropWhile_append_of_pos fun d hd => hafter d (List.mem_reverse.mp hd),
      hkept fun d hd => hcore d (List.mem_reverse.mp hd), List.reverse_reverse]

end Trim

end Text

/-! ### Words for platforms -/

namespace Platform

variable {p : Platform} {s : String}

/-- Whether a character is a letter of a word in either case of ASCII. -/
def InEitherCase (d c : Char) : Prop := c = d ∨ c = d.toUpper

/-- Whether a text is the word for a platform in any case of ASCII, with blanks around it. -/
def NamedBy (p : Platform) (s : String) : Prop :=
  ∃ before core after, s.toList = before ++ core ++ after ∧
    (∀ c ∈ before, Text.isBlank c = true) ∧ (∀ c ∈ after, Text.isBlank c = true) ∧
    List.Forall₂ InEitherCase p.name.toList core

/-- The letters of the words for platforms are small, none of them is a `k`, and they are no blanks
in either case. -/
theorem letters_of_name (p : Platform) : ∀ d ∈ p.name.toList,
    (Text.Casing.isLowered d = true ∧ d ≠ 'k') ∧
      ∀ c, InEitherCase d c → c.toNat < 0x80 ∧ Text.isBlank c = false := by
  have hall : p.name.toList.all (fun d => (Text.Casing.isLowered d && d != 'k') &&
      (decide (d.toNat < 0x80) && !Text.isBlank d) &&
      (decide (d.toUpper.toNat < 0x80) && !Text.isBlank d.toUpper)) = true := by
    cases p <;> decide +kernel
  intro d hd
  obtain ⟨⟨hletter, hself⟩, hupper⟩ : ((Text.Casing.isLowered d = true ∧ d ≠ 'k') ∧
      d.toNat < 0x80 ∧ Text.isBlank d = false) ∧
      d.toUpper.toNat < 0x80 ∧ Text.isBlank d.toUpper = false := by
    simpa using List.all_eq_true.mp hall d hd
  refine ⟨hletter, ?_⟩
  rintro c (rfl | rfl)
  · exact hself
  · exact hupper

/-- A text without blanks around it has the word for a platform as its lower case form just if it is
that word in any case of ASCII. -/
theorem flatMap_lowerOf_eq_name_iff {core : List Char} :
    core.flatMap Text.lowerOf = p.name.toList ↔ List.Forall₂ InEitherCase p.name.toList core := by
  have hform : core.flatMap Text.lowerOf = p.name.toList ↔
      List.Forall₂ Text.Casing.lower.Reads p.name.toList core :=
    Text.Casing.lower.flatMap_form_eq_iff fun d hd => (p.letters_of_name d hd).1.1
  refine hform.trans (Text.Casing.forall₂_iff_of_mem fun d hd c => or_congr_right ?_)
  -- The kelvin sign stands for a `k` only.
  exact or_iff_left fun h => (p.letters_of_name d hd).1.2 h.1

/-- The word for a platform has only characters of ASCII in any case, and no blanks. -/
theorem forall_of_inEitherCase {core : List Char}
    (h : List.Forall₂ InEitherCase p.name.toList core) :
    ∀ c ∈ core, c.toNat < 0x80 ∧ Text.isBlank c = false :=
  Text.Casing.forall_of_forall₂ h fun d hd => (p.letters_of_name d hd).2

/-- Without the blanks around it a text that names a platform is the word for it. -/
theorem NamedBy.forall₂_trim (h : p.NamedBy s) :
    List.Forall₂ InEitherCase p.name.toList (Text.trim s).toList := by
  obtain ⟨before, core, after, hs, hbefore, hafter, hcore⟩ := h
  have htrim : (Text.trim s).toList = core := by
    rw [Text.trim, String.toList_ofList, hs]
    exact Text.trimWith_append hbefore hafter fun c hc => (forall_of_inEitherCase hcore c hc).2
  rwa [htrim]

theorem namedBy_iff_trim :
    p.NamedBy s ↔ List.Forall₂ InEitherCase p.name.toList (Text.trim s).toList := by
  refine ⟨NamedBy.forall₂_trim, fun h => ?_⟩
  obtain ⟨before, after, hs, hbefore, hafter⟩ := Text.exists_trimWith Text.isBlank s.toList
  rw [Text.trim, String.toList_ofList] at h
  exact ⟨before, _, after, hs, hbefore, hafter, h⟩

end Platform

/-! ### Platforms in requests -/

namespace Validation

variable {p : Platform} {s : String}

/-- The platform that is found in a text is the one that the text names. -/
theorem platformNamed?_eq_some_iff : platformNamed? s = some p ↔ p.NamedBy s := by
  rw [platformNamed?, Platform.ofName?_eq_some_iff, Platform.namedBy_iff_trim,
    ← Platform.flatMap_lowerOf_eq_name_iff, Text.lower, ← String.toList_inj, String.toList_ofList]

theorem not_allBlank_of_namedBy (h : p.NamedBy s) : ¬ Text.AllBlank s := by
  intro hblank
  obtain ⟨before, core, after, hs, -, -, hcore⟩ := h
  have hnil : core = [] := by
    refine List.eq_nil_iff_forall_not_mem.mpr fun c hc => ?_
    have hc' : c ∈ s.toList := by
      rw [hs]
      simp [hc]
    exact Bool.false_ne_true
      ((Platform.forall_of_inEitherCase hcore c hc).2.symm.trans (hblank c hc'))
  have hlength := hcore.length_eq
  rw [hnil] at hlength
  cases p <;> cases hlength

theorem requirePlatform_of_blank {value : Option String}
    (h : ∀ s, value = some s → Text.AllBlank s) :
    requirePlatform value = .error (.blankText "Platform") := by
  rw [requirePlatform, requireText_of_blank h]
  rfl

theorem requirePlatform_of_namedBy (h : p.NamedBy s) : requirePlatform (some s) = .ok p := by
  rw [requirePlatform, requireText, if_neg (not_allBlank_of_namedBy h)]
  simp only [bind, Except.bind, platformNamed?_eq_some_iff.mpr h]

theorem requirePlatform_of_text (hblank : ¬ Text.AllBlank s) (h : ∀ p : Platform, ¬ p.NamedBy s) :
    requirePlatform (some s) = .error (.unsupportedPlatform s) := by
  have hnone : platformNamed? s = none :=
    Option.eq_none_iff_forall_ne_some.mpr fun p hp => h p (platformNamed?_eq_some_iff.mp hp)
  rw [requirePlatform, requireText, if_neg hblank]
  simp only [bind, Except.bind, hnone]

/-- What comes of the name of a platform in a request, by what the text holds. -/
theorem requirePlatform_cases (value : Option String) :
    (∃ s p, value = some s ∧ p.NamedBy s ∧ requirePlatform value = .ok p) ∨
      (∀ s, value = some s → Text.AllBlank s) ∧
        requirePlatform value = .error (.blankText "Platform") ∨
      ∃ s, value = some s ∧ ¬ Text.AllBlank s ∧ (∀ p : Platform, ¬ p.NamedBy s) ∧
        requirePlatform value = .error (.unsupportedPlatform s) := by
  by_cases hblank : ∀ s, value = some s → Text.AllBlank s
  · exact .inr (.inl ⟨hblank, requirePlatform_of_blank hblank⟩)
  · push Not at hblank
    obtain ⟨s, rfl, hs⟩ := hblank
    by_cases hname : ∃ p : Platform, p.NamedBy s
    · obtain ⟨p, hp⟩ := hname
      exact .inl ⟨s, p, rfl, hp, requirePlatform_of_namedBy hp⟩
    · push Not at hname
      exact .inr (.inr ⟨s, rfl, hs, hname, requirePlatform_of_text hs hname⟩)

theorem requirePlatform_eq_ok_iff {value : Option String} :
    requirePlatform value = .ok p ↔ ∃ s, value = some s ∧ p.NamedBy s := by
  constructor
  · intro h
    rcases requirePlatform_cases value with ⟨s, q, hs, hq, hok⟩ | ⟨-, herror⟩ | ⟨s, -, -, -, herror⟩
    · obtain rfl : p = q := Except.ok.inj (h.symm.trans hok)
      exact ⟨s, hs, hq⟩
    · cases h.symm.trans herror
    · cases h.symm.trans herror
  · rintro ⟨s, rfl, hs⟩
    exact requirePlatform_of_namedBy hs

/-- A request names a platform just by the word for it, in any case of ASCII and with blanks around
it, and so never by a text with a character beyond ASCII inside. What names no platform is refused:
no text or one without content as missing, and any other text as it is. -/
theorem requirePlatform_language (value : Option String) :
    (∀ p, requirePlatform value = .ok p ↔ ∃ s, value = some s ∧ p.NamedBy s) ∧
      (∀ s c, value = some s → c ∈ (Text.trim s).toList → 0x80 ≤ c.toNat →
        ∀ p, requirePlatform value ≠ .ok p) ∧
      ((∀ s (p : Platform), value = some s → ¬ p.NamedBy s) →
        ∃ e, requirePlatform value = .error e ∧ e.report.kind = .validation ∧
          (e.message = "Platform must not be null or empty" ↔
            ∀ s, value = some s → Text.AllBlank s) ∧
          ∀ s, value = some s → ¬ Text.AllBlank s →
            e.message = "Unsupported platform '" ++ s ++ "'") := by
  refine ⟨fun p => requirePlatform_eq_ok_iff, ?_, fun hnames => ?_⟩
  · rintro s c hs hc hbeyond p hp
    obtain ⟨s', hs', hname⟩ := requirePlatform_eq_ok_iff.mp hp
    obtain rfl : s = s' := Option.some.inj (hs.symm.trans hs')
    have hascii := (Platform.forall_of_inEitherCase hname.forall₂_trim c hc).1
    omega
  · rcases requirePlatform_cases value with ⟨s, p, hs, hp, -⟩ | ⟨hblank, herror⟩ |
      ⟨s, hs, hblank, -, herror⟩
    · exact absurd hp (hnames s p hs)
    · exact ⟨_, herror, rfl, iff_of_true rfl hblank, fun s hs h => absurd (hblank s hs) h⟩
    · refine ⟨_, herror, rfl, iff_of_false ?_ fun h => hblank (h s hs), ?_⟩
      · intro hmessage
        have hfirst := congrArg (fun m => m.toList.head?) hmessage
        simp [AppError.message, AppError.report] at hfirst
      · intro s' hs' _
        rw [Option.some.inj (hs'.symm.trans hs)]
        rfl

end Validation

end PushRegistry
