import PushRegistry.Proofs.Json.Reading
import PushRegistry.Service.Client

/-!
# What callers know of a question to the activation service

A question about an activation has three results that callers are prepared for: the activation does
not exist, it is reported under its own name, or an error of the infrastructure says that nothing
was found out. A batch goes on after an error; anything else that leaves a question ends it.

The service is asked over a transport and sends a status, headers and bytes, of which nothing is
certain. Bytes that are no text, a text that is no JSON and a document that is no object are errors
of the infrastructure, and so is an error that the service reports. Three answers that the client
hands over are not provided for: a document that is nested too deep to be read, one in which
something else than an object stands where the activation is described, and a report of an error
that cannot be shown as text. Nor is it provided for that the client itself complains of an address
or of a cookie, as it does of an address whose scheme is not followed by a path.

## Main definitions

* `Oracle.Foreseen`: the results that callers are prepared for.
* `ServiceResponse.IsTooDeep`, `ServiceResponse.Misdescribes`, `ServiceResponse.Complains`: what
  there may be about an answer.
* `ServiceResponse.IsProvidedFor`: the answers that are provided for.

## Main results

* `ServiceResponse.object_cases`, `ServiceResponse.description_cases`,
  `ServiceResponse.report_cases`: what becomes of an answer step by step.
* `ActivationService.foreseen_oracle_iff`: the questions with a result that callers are prepared
  for.
-/

namespace PushRegistry

/-! ### Results that callers are prepared for -/

/-- The results of a question about an activation that callers are prepared for. -/
inductive Oracle.Foreseen (activationId : String) :
    Except Failure (Option ActivationReport) → Prop
  | absent : Foreseen activationId (.ok none)
  | reported (status : ActivationStatus) (userId : Json) :
      Foreseen activationId (.ok (some ⟨activationId, status, userId⟩))
  | refused {error : AppError} (h : error.report.kind = .infrastructure) :
      Foreseen activationId (.error (.app error))

theorem Oracle.not_foreseen_defect {a : String} {d : Defect} :
    ¬ Foreseen a (.error (.defect d)) := by
  rintro ⟨⟩

/-- The condition for a result that callers are prepared for, from what it comes to in either
case. -/
theorem Oracle.foreseen_iff_of_cases {a : String} {x : Except Failure (Option ActivationReport)}
    {p : Prop} (h : Foreseen a x ∧ p ∨ (∃ d, x = .error (.defect d)) ∧ ¬ p) :
    (Foreseen a x ↔ p) ∧ (¬ Foreseen a x → ∃ d, x = .error (.defect d)) := by
  rcases h with ⟨hforeseen, hp⟩ | ⟨⟨d, rfl⟩, hp⟩
  · exact ⟨iff_of_true hforeseen hp, absurd hforeseen⟩
  · exact ⟨iff_of_false not_foreseen_defect hp, fun _ => ⟨d, rfl⟩⟩

/-- A fault of the transport is one that callers are prepared for or a defect. -/
theorem TransportFault.failure_cases (fault : TransportFault) :
    fault = .unreachable ∨ fault ≠ .unreachable ∧ ∃ d, fault.failure = .defect d := by
  cases fault with
  | unreachable => exact .inl rfl
  | invalidAddress => exact .inr ⟨nofun, _, rfl⟩
  | cookieConflict => exact .inr ⟨nofun, _, rfl⟩

namespace ServiceResponse

variable {room : Nat} {r : ServiceResponse} {a : String}

/-! ### Answers that are read -/

/-- Whether an answer is a document with more lists and objects inside one another than there is
room for. -/
def IsTooDeep (room : Nat) (r : ServiceResponse) : Prop :=
  ∃ points place, Text.points? r.body = some points ∧
    Json.read room points = .error ⟨.tooDeep, place⟩

/-- The body of an answer is an object, malformed, or nested too deep. -/
theorem object_cases (room : Nat) (r : ServiceResponse) :
    (∃ fields, r.object room = .ok (.object fields)) ∧ ¬ r.IsTooDeep room ∨
      r.object room = .error (.app .answerMalformed) ∧ ¬ r.IsTooDeep room ∨
      r.object room = .error (.defect .documentTooDeep) ∧ r.IsTooDeep room := by
  rw [object, IsTooDeep]
  cases Text.points? r.body with
  | none => exact .inr (.inl ⟨rfl, nofun⟩)
  | some points =>
    have hshallow : ∀ x, Json.read room points = x → (∀ place, x ≠ .error ⟨.tooDeep, place⟩) →
        ¬ ∃ points' place, some points = some points' ∧
          Json.read room points' = .error ⟨.tooDeep, place⟩ := by
      rintro x hx hne ⟨_, place, ⟨⟩, hread⟩
      exact hne place (hx.symm.trans hread)
    dsimp only
    split
    · next fields hread => exact .inl ⟨⟨fields, rfl⟩, hshallow _ hread nofun⟩
    · next hread => exact .inr (.inl ⟨rfl, hshallow _ hread nofun⟩)
    · next place hread => exact .inr (.inr ⟨rfl, points, place, rfl, hread⟩)
    · next fault hdeep hread =>
      refine .inr (.inl ⟨rfl, hshallow _ hread ?_⟩)
      rintro place ⟨⟩
      exact hdeep place rfl

/-- Whether a body has a value with content that is no object where it describes the activation. -/
def IsMisplaced (body : Json) : Prop :=
  (fieldOrNull "responseObject" body).hasContent = true ∧
    ∀ fields, fieldOrNull "responseObject" body ≠ .object fields

theorem fieldOrNull_of_ne {value : Json} (h : ∀ fields, value ≠ .object fields) (name : String) :
    fieldOrNull name value = .null := by
  cases value with
  | object fields => exact absurd rfl (h fields)
  | _ => rfl

/-- A body describes the activation by an object with the fields that stand there, unless something
else stands there. -/
theorem description_cases (body : Json) :
    (∃ inner, description body = .ok inner ∧
        ∀ name, fieldOrNull name inner = fieldOrNull name (fieldOrNull "responseObject" body)) ∧
        ¬ IsMisplaced body ∨
      description body = .error (.defect .answerNotObject) ∧ IsMisplaced body := by
  rw [description, IsMisplaced]
  split
  · next fields hfields =>
    exact .inl ⟨⟨_, rfl, fun name => by rw [hfields]⟩, fun h => h.2 fields hfields⟩
  · next hother =>
    split
    · next hcontent => exact .inr ⟨rfl, hcontent, hother⟩
    · next hcontent =>
      exact .inl ⟨⟨_, rfl, fun name => (fieldOrNull_of_ne hother name).symm⟩,
        fun h => hcontent h.1⟩

/-- Whether an answer has something else than an object where it describes the activation. -/
def Misdescribes (room : Nat) (r : ServiceResponse) : Prop :=
  ∃ body, r.object room = .ok body ∧ IsMisplaced body

/-- Whether a body that comes with a status reports an error. -/
def ReportsError (status : Int) (body : Json) : Prop :=
  400 ≤ status ∨ fieldOrNull "status" body = .text "ERROR"

/-- Whether an answer reports an error, other than that the activation does not exist. -/
def Complains (room : Nat) (r : ServiceResponse) : Prop :=
  ∃ body, r.object room = .ok body ∧ ReportsError r.status body ∧
    fieldOrNull "code" (fieldOrNull "responseObject" body) ≠ .text notFoundCode

/-- Whether an answer that the client hands over is provided for. -/
def IsProvidedFor (client : HttpClient) (r : ServiceResponse) : Prop :=
  r.status = 404 ∨
    ¬ r.IsTooDeep client.room ∧ ¬ r.Misdescribes client.room ∧
      (r.Complains client.room → client.showsText r = true)

/-- An answer that is provided for says something that callers are prepared for; any other answer
leads to a defect. -/
theorem report_cases (client : HttpClient) (r : ServiceResponse) (a : String) :
    Oracle.Foreseen a (r.report client a) ∧ r.IsProvidedFor client ∨
      (∃ d, r.report client a = .error (.defect d)) ∧ ¬ r.IsProvidedFor client := by
  rw [report, IsProvidedFor]
  by_cases hfound : r.status = 404
  · rw [if_pos hfound]
    exact .inl ⟨.absent, .inl hfound⟩
  rw [if_neg hfound, or_iff_right hfound, Misdescribes, Complains]
  rcases object_cases client.room r with ⟨⟨fields, hobject⟩, hshallow⟩ | ⟨hobject, hshallow⟩ |
    ⟨hobject, hdeep⟩ <;> simp only [hobject, bind, Except.bind]
  · rw [and_iff_right hshallow]
    rcases description_cases (.object fields) with ⟨⟨inner, hinner, hfields⟩, hplaced⟩ |
      ⟨hinner, hmisplaced⟩ <;> simp only [hinner]
    · have hdescribes : ¬ ∃ body,
          Except.ok (Json.object fields) = (.ok body : Except Failure Json) ∧
            IsMisplaced body := by
        rintro ⟨_, ⟨⟩, h⟩
        exact hplaced h
      rw [and_iff_right hdescribes]
      by_cases herror : ReportsError r.status (.object fields)
      · rw [if_pos (by simpa [ReportsError] using herror)]
        by_cases hcode : fieldOrNull "code" inner = .text notFoundCode
        · rw [if_pos hcode]
          refine .inl ⟨.absent, ?_⟩
          rintro ⟨_, ⟨⟩, -, hother⟩
          exact absurd ((hfields _).symm.trans hcode) hother
        · rw [if_neg hcode]
          by_cases hshows : client.showsText r = true
          · rw [if_pos hshows]
            exact .inl ⟨.refused rfl, fun _ => hshows⟩
          · rw [if_neg hshows]
            exact .inr ⟨⟨_, rfl⟩, fun h => hshows (h ⟨_, rfl, herror, hfields _ ▸ hcode⟩)⟩
      · rw [if_neg (by simpa [ReportsError] using herror)]
        refine .inl ⟨.reported _ _, ?_⟩
        rintro ⟨_, ⟨⟩, h, -⟩
        exact absurd h herror
    · exact .inr ⟨⟨_, rfl⟩, fun h => h.1 ⟨_, rfl, hmisplaced⟩⟩
  · exact .inl ⟨.refused rfl, hshallow, by rintro ⟨_, ⟨⟩, -⟩, by rintro ⟨_, ⟨⟩, -⟩⟩
  · exact .inr ⟨⟨_, rfl⟩, fun h => h.1 hdeep⟩

end ServiceResponse

/-! ### Questions -/

namespace ActivationService

/-- A question has a result that callers are prepared for just if there is a request for it and
either the service is not reached or the client hands over an answer that is provided for. Any other
result is a defect. -/
theorem foreseen_oracle_iff (service : ActivationService) (client : HttpClient)
    (transport : Transport) (a : String) :
    (Oracle.Foreseen a (service.oracle client transport a) ↔
      ∃ request, service.request? a = some request ∧
        (client.exchange transport request = .error .unreachable ∨
          ∃ r, client.exchange transport request = .ok r ∧ r.IsProvidedFor client)) ∧
      (¬ Oracle.Foreseen a (service.oracle client transport a) →
        ∃ d, service.oracle client transport a = .error (.defect d)) := by
  refine Oracle.foreseen_iff_of_cases ?_
  rw [oracle]
  cases service.request? a with
  | none =>
    refine .inr ⟨⟨_, rfl⟩, ?_⟩
    rintro ⟨_, ⟨⟩, -⟩
  | some request =>
    simp only [Option.some.injEq, exists_eq_left']
    cases client.exchange transport request with
    | ok r =>
      rcases r.report_cases client a with ⟨hforeseen, hprovided⟩ | ⟨hdefect, hother⟩
      · exact .inl ⟨hforeseen, .inr ⟨r, rfl, hprovided⟩⟩
      · refine .inr ⟨hdefect, ?_⟩
        rintro (hfault | ⟨_, ⟨⟩, hprovided⟩)
        · cases hfault
        · exact hother hprovided
    | error fault =>
      rcases fault.failure_cases with rfl | ⟨hreached, d, hdefect⟩
      · exact .inl ⟨.refused rfl, .inl rfl⟩
      · refine .inr ⟨⟨d, congrArg _ hdefect⟩, ?_⟩
        rintro (hfault | ⟨_, hanswer, -⟩)
        · exact hreached (Except.error.inj hfault)
        · cases hanswer

end ActivationService

/-! ### Two answers that are not provided for -/

/-- The activation service at an address without credentials. -/
def ActivationService.plain : ActivationService := ⟨"http://powerauth.test/rest", none⟩

/-- An answer with a number where the activation is described. -/
def ServiceResponse.misplaced : ServiceResponse :=
  ⟨200, [], "\x7b\"responseObject\":1\x7d".toUTF8.toList⟩

/-- An answer that points to an address for mail. -/
def ServiceResponse.mailing : ServiceResponse := ⟨302, [("Location", "mailto:a")], []⟩

theorem ServiceResponse.object_misplaced (room : Nat) :
    misplaced.object (room + 1) = .ok (.record [("responseObject", .int 1)]) := by
  have hpoints : Text.points? misplaced.body =
      some (Json.enclosed "responseObject" [0x31, Json.closeBrace]) := by decide +kernel
  have hone : Json.Reads room [0x31, Json.closeBrace] (.int 1) [Json.closeBrace] :=
    Json.reads_plain room (by decide) rfl
  have hread : Json.read (room + 1) (Json.enclosed "responseObject" [0x31, Json.closeBrace]) =
      .ok (.record [("responseObject", .int 1)]) :=
    (hone.enclosed "responseObject" (by decide +kernel) rfl).read_eq rfl rfl
  rw [object, hpoints]
  simp only [hread, Json.record]

/-- Callers are not prepared for the number, nor for the address for mail. -/
theorem ActivationService.plain_unforeseen :
    let answers (r : ServiceResponse) := plain.oracle .standard (fun _ => .ok r) "a"
    (plain.request? "a").isSome = true ∧
      answers .misplaced = .error (.defect .answerNotObject) ∧
      answers .mailing = .error (.defect .invalidAddress) ∧
      ¬ Oracle.Foreseen "a" (answers .misplaced) ∧ ¬ Oracle.Foreseen "a" (answers .mailing) := by
  intro answers
  have hrequest : (plain.request? "a").isSome = true := by decide +kernel
  obtain ⟨request, hsome⟩ := Option.isSome_iff_exists.mp hrequest
  have hnumber : answers .misplaced = .error (.defect .answerNotObject) := by
    change plain.oracle _ _ _ = _
    rw [oracle, hsome]
    change ServiceResponse.report _ _ _ = _
    rw [ServiceResponse.report, if_neg (by decide)]
    change (ServiceResponse.misplaced.object (899 + 1) >>= _) = _
    rw [ServiceResponse.object_misplaced]
    rfl
  have hfault : (plain.request? "a").bind (HttpClient.standard.fault? · .mailing) =
      some .invalidAddress := by decide +kernel
  have hmail : answers .mailing = .error (.defect .invalidAddress) := by
    rw [hsome, Option.bind_some] at hfault
    change plain.oracle _ _ _ = _
    rw [oracle, hsome]
    simp only [HttpClient.exchange, hfault]
    rfl
  refine ⟨hrequest, hnumber, hmail, ?_, ?_⟩
  · rw [hnumber]
    exact Oracle.not_foreseen_defect
  · rw [hmail]
    exact Oracle.not_foreseen_defect

end PushRegistry
