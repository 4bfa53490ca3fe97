import PushRegistry.Proofs.Service.Contract
import PushRegistry.Proofs.Text.Casing

/-!
# Names of states in answers of the activation service

The service names the state of an activation. A name is read in upper case, and a name without a
meaning leaves the state unknown. A device may be bound to an activation of unknown state but not to
a removed one, and it receives messages for an active one only. So it matters which values have a
meaning at all.

Only strings have. Any other value is read by its spelling, which holds a digit, a sign or a
bracket, or is shorter than all names. A string has a meaning if it is one of the names with each
letter in either case of ASCII; beyond ASCII only the small i without its dot stands for a letter.

## Main definitions

* `JsonString.points`: the code points of a string.
* `ServiceResponse.StandsFor`: the code points that stand for a character of a name.
* `ServiceResponse.NamesState`: the strings that name a state.

## Main results

* `ServiceResponse.statusOf_eq_iff`: the values that name a state.
* `ActivationService.state_known_iff`: when an answer makes the state of an activation known.
-/

namespace PushRegistry

/-! ### Strings -/

/-- The code points of a string. -/
def JsonString.points : JsonString → List Nat
  | text s => s.toList.map Char.toNat
  | broken ps => ps

namespace Json

/-- A code point in the text of a value. -/
def shownPoint (n : Nat) : Char := if n.isValidChar then Char.ofNat n else Char.ofNat 0xFFFD

theorem shownPoint_toNat (c : Char) : shownPoint c.toNat = c := by
  rw [shownPoint, if_pos (show c.toNat.isValidChar from c.valid), Char.ofNat_toNat]

theorem toNat_shownPoint {n : Nat} (h : n.isValidChar) : (shownPoint n).toNat = n := by
  rw [shownPoint, if_pos h, Text.toNat_ofNat h]

/-- A string as a text shows its code points. -/
theorem display_string (s : JsonString) : (string s).display = s.points.map shownPoint := by
  cases s with
  | text s =>
    rw [JsonString.points, List.map_map, display]
    exact (List.map_id'' shownPoint_toNat s.toList).symm
  | broken ps => rfl

/-- A string without content has no code points. -/
theorem points_eq_nil {s : JsonString} (h : (string s).hasContent = false) : s.points = [] := by
  cases s with
  | text s =>
    have hempty : s = "" := by simpa [hasContent] using h
    subst hempty
    rfl
  | broken ps =>
    have hempty : ps = [] := by simpa [hasContent] using h
    exact hempty

/-! ### Other values -/

/-- Whether a character stands in no name: a digit, a sign, a point, a bracket or a blank. -/
def isMark (c : Char) : Bool :=
  c.isDigit || ['+', '-', '.', '[', '{'].contains c || Text.isBlank c

theorem exists_isMark_writeInt (n : Int) : ∃ c ∈ writeInt n, isMark c = true := by
  rw [writeInt]
  split
  · exact ⟨'-', List.mem_cons_self, by decide⟩
  · obtain ⟨c, hc⟩ := List.exists_mem_of_ne_nil _ (Nat.toDigits_ne_nil (n := n.natAbs) (b := 10))
    have hdigit : c.isDigit = true := Nat.isDigit_of_mem_toDigits (by decide) (by decide) hc
    exact ⟨c, hc, by simp [isMark, hdigit]⟩

/-- A numeral has a point, or a sign before its power of ten. -/
theorem exists_isMark_render (f : Numeral.Format) (x : Numeral) :
    ∃ c ∈ x.render f, isMark c = true := by
  rw [Numeral.render]
  split
  · exact ⟨'.', by simp, by decide⟩
  · split
    · refine ⟨'.', ?_, by decide⟩
      rw [Numeral.positional]
      split <;> simp
    · by_cases hpower : x.point - 1 < 0
      · refine ⟨'-', ?_, by decide⟩
        rw [Numeral.scientific.eq_def]
        split <;> simp [hpower]
      · refine ⟨'+', ?_, by decide⟩
        rw [Numeral.scientific.eq_def]
        split <;> simp [hpower]

/-- The spelling of a value that is no string has a character of no name, or it is short. -/
theorem isMark_or_short {value : Json} (hcontent : value.hasContent = true)
    (h : ∀ s, value ≠ .string s) :
    (∃ c ∈ value.display, isMark c = true) ∨ value.display.length < 6 := by
  cases value with
  | null => cases hcontent
  | bool b => cases b <;> exact .inr (by decide)
  | int n => exact .inl (exists_isMark_writeInt n)
  | float x =>
    -- A finite number may have a sign in front, so the mark is looked for in its digits.
    cases x with
    | nan => exact .inr (by decide)
    | infinite negative => cases negative <;> exact .inr (by decide)
    | finite negative m e =>
      obtain ⟨c, hc, hmark⟩ := exists_isMark_render numeralFormat
        ((Binary64.shortest? m e).getD Binary64.zeroNumeral)
      refine .inl ⟨c, ?_, hmark⟩
      change c ∈ writeFloat (.finite negative m e)
      rw [writeFloat]
      split
      · exact List.mem_cons_of_mem _ hc
      · exact hc
  | string s => exact absurd rfl (h s)
  | list items =>
    cases items with
    | nil => cases hcontent
    | cons v items => exact .inl ⟨'[', List.mem_cons_self, by decide⟩
  | object fields =>
    cases fields with
    | nil => cases hcontent
    | cons f fields => exact .inl ⟨'{', List.mem_cons_self, by decide⟩

end Json

/-! ### Names of states -/

namespace ServiceResponse

open Text (Casing)

variable {status : ActivationStatus} {value : Json}

/-- Whether a code point stands for a character of a name: it is that character in either case of
ASCII, or the small i without its dot for an I. -/
def StandsFor (d : Char) (n : Nat) : Prop :=
  n = d.toNat ∨ n = d.toLower.toNat ∨ d = 'I' ∧ n = 0x131

instance (d : Char) (n : Nat) : Decidable (StandsFor d n) :=
  inferInstanceAs (Decidable (_ ∨ _ ∨ _))

/-- The names of a state. -/
def namesFor : ActivationStatus → List String
  | .active => ["ACTIVE"]
  | .inactive => ["CREATED", "PENDING_COMMIT", "BLOCKED"]
  | .removed => ["REMOVED"]
  | .unknown => []

/-- Whether a string is a name of a state, in any case. -/
def NamesState (status : ActivationStatus) (s : JsonString) : Prop :=
  ∃ name ∈ namesFor status, List.Forall₂ StandsFor name.toList s.points

theorem mem_namesFor_iff {name : String} :
    name ∈ namesFor status ↔ (name, status) ∈ statusNames := by
  cases status <;> simp [namesFor, statusNames]

/-- The names of states are in capital letters that no ligature has in its form, they have at least
six characters, and none of these is a mark in any case. -/
theorem letters_of_statusNames : ∀ e ∈ statusNames, 6 ≤ e.1.toList.length ∧
    ∀ d ∈ e.1.toList, Casing.isRaised d = true ∧
      ∀ c, Casing.upper.Reads d c → Json.isMark c = false := by
  have hall : ∀ e ∈ statusNames, 6 ≤ e.1.toList.length ∧
      e.1.toList.all (fun d =>
        Casing.isRaised d && !Json.isMark d && !Json.isMark d.toLower) = true := by
    decide +kernel
  intro e he
  obtain ⟨hlength, hletters⟩ := hall e he
  refine ⟨hlength, fun d hd => ?_⟩
  obtain ⟨⟨hraised, hself⟩, hlower⟩ : (Casing.isRaised d = true ∧ Json.isMark d = false) ∧
      Json.isMark d.toLower = false := by
    simpa using List.all_eq_true.mp hletters d hd
  refine ⟨hraised, ?_⟩
  rintro c (rfl | rfl | ⟨-, rfl⟩)
  · exact hself
  · exact hlower
  · decide

/-- A state is found under each of its names and under no other text. -/
theorem getD_lookup_statusNames_iff {s : String} (hstatus : status ≠ .unknown) :
    (statusNames.lookup s).getD .unknown = status ↔ (s, status) ∈ statusNames := by
  constructor
  · intro h
    cases hlookup : statusNames.lookup s with
    | none =>
      rw [hlookup] at h
      exact absurd h.symm hstatus
    | some found =>
      rw [hlookup] at h
      obtain rfl : found = status := h
      exact Text.mem_of_lookup_eq_some hlookup
  · intro h
    have hall : ∀ e ∈ statusNames, statusNames.lookup e.1 = some e.2 := by decide +kernel
    rw [hall _ h]
    rfl

/-- A code point is shown as a character that stands for one of a name just if it stands for it. -/
theorem reads_shownPoint_iff {d : Char} {n : Nat} (hd : Casing.isRaised d = true) :
    Casing.upper.Reads d (Json.shownPoint n) ↔ StandsFor d n := by
  have hi : 'ı'.toNat = 0x131 := rfl
  by_cases hvalid : n.isValidChar
  · have hshown : ∀ c, Json.shownPoint n = c ↔ n = c.toNat := fun c => by
      rw [← Char.toNat_inj, Json.toNat_shownPoint hvalid]
    rw [Casing.Reads, StandsFor, hshown, hshown, hshown]
    rfl
  -- A surrogate is shown as another character, which stands in no name.
  · have hne : ∀ c : Char, n ≠ c.toNat := fun c hc => hvalid (hc ▸ c.valid)
    have hshown : ∀ c : Char, c.toNat < 0x80 ∨ c = 'ı' → Json.shownPoint n ≠ c := by
      rw [Json.shownPoint, if_neg hvalid]
      rintro c (hc | rfl)
      · rintro rfl
        exact absurd hc (by decide)
      · decide
    refine iff_of_false ?_ ?_
    · rintro (h | h | ⟨-, h⟩)
      · exact hshown _ (.inl (Casing.ascii_of_isRaised d hd)) h
      · exact hshown _ (.inl (Casing.upper.fold_swap d hd).1) h
      · exact hshown _ (.inr rfl) h
    · rintro (h | h | ⟨-, h⟩)
      · exact hne _ h
      · exact hne _ h
      · exact hne 'ı' h

/-- The upper case form of a text is a name of a state just if the text is that name in any case. -/
theorem upper_mem_statusNames_iff {cs : List Char} :
    (Text.upper (String.ofList cs), status) ∈ statusNames ↔
      ∃ name, (name, status) ∈ statusNames ∧
        List.Forall₂ Casing.upper.Reads name.toList cs := by
  have hform : ∀ name, (name, status) ∈ statusNames →
      (Text.upper (String.ofList cs) = name ↔
        List.Forall₂ Casing.upper.Reads name.toList cs) := by
    intro name hname
    rw [Text.upper, String.toList_ofList, ← String.toList_inj, String.toList_ofList]
    exact Casing.upper.flatMap_form_eq_iff fun d hd =>
      ((letters_of_statusNames _ hname).2 d hd).1
  constructor
  · intro h
    exact ⟨_, h, (hform _ h).mp rfl⟩
  · rintro ⟨name, hname, h⟩
    rwa [(hform name hname).mpr h]

/-- A string has the characters of a name just if it is that name in any case. -/
theorem forall₂_shownPoint_iff {name : String} {s : JsonString}
    (hname : (name, status) ∈ statusNames) :
    List.Forall₂ Casing.upper.Reads name.toList (s.points.map Json.shownPoint) ↔
      List.Forall₂ StandsFor name.toList s.points := by
  rw [List.forall₂_map_right_iff]
  exact Casing.forall₂_iff_of_mem fun d hd n =>
    reads_shownPoint_iff ((letters_of_statusNames _ hname).2 d hd).1

/-- Values that are no strings are not shown as names in any case. -/
theorem not_forall₂_display {name : String} (hname : (name, status) ∈ statusNames)
    (hcontent : value.hasContent = true) (h : ∀ s, value ≠ .string s) :
    ¬ List.Forall₂ Casing.upper.Reads name.toList value.display := by
  intro hreads
  obtain ⟨hlength, hletters⟩ := letters_of_statusNames _ hname
  rcases Json.isMark_or_short hcontent h with ⟨c, hc, hmark⟩ | hshort
  · have hplain := Casing.forall_of_forall₂ hreads (fun d hd => (hletters d hd).2) c hc
    exact Bool.false_ne_true (hplain.symm.trans hmark)
  · have hlong : 6 ≤ value.display.length := hreads.length_eq ▸ hlength
    omega

/-- A value names a state just if it is a string that is one of its names in any case. -/
theorem statusOf_eq_iff (hstatus : status ≠ .unknown) :
    statusOf value = status ↔ ∃ s, value = .string s ∧ NamesState status s := by
  simp only [NamesState, mem_namesFor_iff]
  rw [statusOf]
  by_cases hcontent : value.hasContent = true
  · rw [if_pos hcontent]
    refine (getD_lookup_statusNames_iff hstatus).trans (upper_mem_statusNames_iff.trans ?_)
    constructor
    · rintro ⟨name, hname, hreads⟩
      by_cases hstring : ∃ s, value = .string s
      · obtain ⟨s, rfl⟩ := hstring
        rw [Json.display_string] at hreads
        exact ⟨s, rfl, name, hname, (forall₂_shownPoint_iff hname).mp hreads⟩
      · exact absurd hreads (not_forall₂_display hname hcontent fun s hs => hstring ⟨s, hs⟩)
    · rintro ⟨s, rfl, name, hname, hstands⟩
      rw [Json.display_string]
      exact ⟨name, hname, (forall₂_shownPoint_iff hname).mpr hstands⟩
  · rw [if_neg hcontent]
    refine (getD_lookup_statusNames_iff hstatus).trans (iff_of_false ?_ ?_)
    · intro hname
      have hlength : 6 ≤ "".toList.length := (letters_of_statusNames _ hname).1
      exact absurd hlength (by decide)
    · rintro ⟨s, rfl, name, hname, hstands⟩
      have hlength : 6 ≤ s.points.length := hstands.length_eq ▸ (letters_of_statusNames _ hname).1
      rw [Json.points_eq_nil (Bool.eq_false_iff.mpr hcontent)] at hlength
      exact absurd hlength (by decide)

/-- No code point in a name of a state, in any case, is a blank. -/
theorem isBlank_of_namesState {s : JsonString} (h : NamesState status s) :
    ∀ c : Char, c.toNat ∈ s.points → Text.isBlank c = false := by
  obtain ⟨name, hname, hstands⟩ := h
  have hletters := (letters_of_statusNames _ (mem_namesFor_iff.mp hname)).2
  have hplain := Casing.forall_of_forall₂ ((forall₂_shownPoint_iff (mem_namesFor_iff.mp hname)).mpr
    hstands) fun d hd => (hletters d hd).2
  intro c hc
  have hmark : Json.isMark (Json.shownPoint c.toNat) = false :=
    hplain _ (List.mem_map_of_mem hc)
  rw [Json.shownPoint_toNat, Json.isMark, Bool.or_eq_false_iff] at hmark
  exact hmark.2

/-- What an answer says that is read and reports no error. -/
theorem report_of_object {client : HttpClient} {r : ServiceResponse} {a : String} {body : Json}
    {fields : List (JsonString × Json)} (hstatus : r.status < 400)
    (hbody : r.object client.room = .ok body) (hfine : fieldOrNull "status" body ≠ .text "ERROR")
    (hinner : fieldOrNull "responseObject" body = .object fields) :
    r.report client a = .ok (some ⟨a, statusOf (fieldOrNull "activationStatus" (.object fields)),
      fieldOrNull "userId" (.object fields)⟩) := by
  have hfound : r.status ≠ 404 := by omega
  have hread : ¬ 400 ≤ r.status := by omega
  have hdescription : description body = .ok (.object fields) := by
    rw [description, hinner]
  rw [report, if_neg hfound, hbody]
  simp [bind, Except.bind, hdescription, hread, hfine, pure, Except.pure]

end ServiceResponse

/-! ### Answers -/

namespace ActivationService

open ServiceResponse

/-- What comes of a question for which there is a request and an answer. -/
theorem oracle_of_answer {service : ActivationService} {client : HttpClient}
    {transport : Transport} {a : String} {request : ServiceRequest} {r : ServiceResponse}
    (hrequest : service.request? a = some request) (hanswer : transport a = .ok r) :
    service.oracle client transport a =
      match client.fault? request r with
      | some fault => .error fault.failure
      | none => r.report client a := by
  have hasked : request.activationId = a := by
    rw [request?, Option.map_eq_some_iff] at hrequest
    obtain ⟨address, -, rfl⟩ := hrequest
    rfl
  rw [oracle, hrequest]
  simp only [HttpClient.exchange, hasked, hanswer]
  cases client.fault? request r <;> rfl

/-- An answer that is read, reports no error and describes the activation by an object makes its
state known just if the description has a string there that is a name of the state in any case. If
the address of the service is in order and the client hands the answer over, this is what comes of
the question; nothing else ever comes of it but an error. -/
theorem state_known_iff (service : ActivationService) (client : HttpClient) (transport : Transport)
    {a : String} {r : ServiceResponse} {body : Json} {fields : List (JsonString × Json)}
    (hanswer : transport a = .ok r) (hstatus : r.status < 400)
    (hbody : r.object client.room = .ok body) (hfine : fieldOrNull "status" body ≠ .text "ERROR")
    (hinner : fieldOrNull "responseObject" body = .object fields) :
    ∃ state,
      (∀ found, service.oracle client transport a = .ok found →
        found = some ⟨a, state, fieldOrNull "userId" (.object fields)⟩) ∧
      (∀ request, service.request? a = some request → client.fault? request r = none →
        service.oracle client transport a =
          .ok (some ⟨a, state, fieldOrNull "userId" (.object fields)⟩)) ∧
      (∀ status ≠ .unknown, state = status ↔
        ∃ s, fieldOrNull "activationStatus" (.object fields) = .string s ∧
          NamesState status s) ∧
      (state ≠ .unknown →
        ∃ s, fieldOrNull "activationStatus" (.object fields) = .string s ∧
          ∀ c : Char, c.toNat ∈ s.points → Text.isBlank c = false) := by
  have hreport := report_of_object (a := a) hstatus hbody hfine hinner
  refine ⟨_, ?_, ?_, fun status => statusOf_eq_iff, ?_⟩
  · intro found hfound
    cases hrequest : service.request? a with
    | none =>
      rw [oracle, hrequest] at hfound
      cases hfound
    | some request =>
      rw [oracle_of_answer hrequest hanswer] at hfound
      split at hfound
      · cases hfound
      · exact (Except.ok.inj (hreport.symm.trans hfound)).symm
  · intro request hrequest hfault
    rw [oracle_of_answer hrequest hanswer, hfault]
    exact hreport
  · intro hknown
    obtain ⟨s, hvalue, hnames⟩ := (statusOf_eq_iff hknown).mp rfl
    exact ⟨s, hvalue, isBlank_of_namesState hnames⟩

end ActivationService

/-- A document that names a state with a small i without its dot. -/
def ServiceResponse.dotlessText : String :=
  "\x7b\"responseObject\":\x7b\"activationStatus\":\"act\u0131ve\"\x7d\x7d"

/-- An answer with that document. -/
def ServiceResponse.dotless : ServiceResponse := ⟨200, [], Text.toUtf8 dotlessText⟩

theorem ServiceResponse.object_dotless (room : Nat) : dotless.object (room + 2) = .ok (.record
    [("responseObject", .record [("activationStatus", .text "act\u0131ve")])]) := by
  have hpoints : Text.points? dotless.body = some (Json.enclosed "responseObject"
      (Json.enclosed "activationStatus" (Json.quoteMark :: ("act\u0131ve".toList.map Char.toNat ++
        [Json.quoteMark, Json.closeBrace, Json.closeBrace])))) := by
    decide +kernel
  have hstate := Json.reads_string room (s := "act\u0131ve") (by decide +kernel)
    [Json.closeBrace, Json.closeBrace]
  have hinner := hstate.enclosed "activationStatus" (by decide +kernel) rfl
  have houter := hinner.enclosed "responseObject" (by decide +kernel) rfl
  rw [object, hpoints]
  simp only [houter.read_eq rfl rfl]
  rfl

/-- The state named so is active. -/
theorem ActivationService.plain_dotless :
    ServiceResponse.dotless.status < 400 ∧
      plain.oracle .standard (fun _ => .ok .dotless) "a" = .ok (some ⟨"a", .active, .null⟩) := by
  have hstatus : ServiceResponse.dotless.status < 400 := by decide
  obtain ⟨state, -, hanswer, hnames, -⟩ := state_known_iff plain .standard (fun _ => .ok .dotless)
    (a := "a") rfl hstatus (ServiceResponse.object_dotless 898) (by decide) rfl
  have hstate : state = .active :=
    (hnames .active nofun).mpr ⟨.text "act\u0131ve", rfl, "ACTIVE", List.mem_cons_self, by decide⟩
  have hrequest : (plain.request? "a").isSome = true := by decide +kernel
  obtain ⟨request, hrequest⟩ := Option.isSome_iff_exists.mp hrequest
  subst hstate
  exact ⟨hstatus, hanswer request hrequest rfl⟩

end PushRegistry
