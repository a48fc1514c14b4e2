import VulnScanner.Proofs.Http.Host
import VulnScanner.Proofs.Json.Documents
import VulnScanner.Proofs.Payload.Journal

/-!
# What a callback server answers

A look-up asks once, and each reply has one answer. A missing page means no, and a document says
yes or no by the last values of two names. Everything else is an error, which a wait takes as no.
-/

namespace VulnScanner.Callback.Client

variable {W T : Type}

/-! ### Answers -/

/-- The text in the body of an answer. -/
def bodyText (body : List UInt8) : List Char := (Octets.decodeLossy body).toList

/-- The members say that something has been recorded: the last value of one of the two names
holds. -/
def SaysRecorded (members : List (String × Value)) : Prop :=
  ∃ name ∈ ["has_dns_interaction", "has_http_interaction"],
    ∃ v, Json.IsLast members name v ∧ v.isTruthy = true

/-- What a reply answers. -/
inductive Answers : Http.Reply → Except Http.AdapterError Bool → Prop
  | failure {fault : Http.NetworkFault} : Answers (.failure fault) (.error (.requestFailed fault))
  | missing {body : List UInt8} {headers : List (String × String)} :
      Answers (.answer 404 body headers) (.ok false)
  | badStatus {status : Int} {body : List UInt8} {headers : List (String × String)}
      (h404 : status ≠ 404) (h200 : status ≠ 200) :
      Answers (.answer status body headers) (.error (.badStatus status))
  | malformed {body : List UInt8} {headers : List (String × String)} {e : Json.Error}
      (h : Json.parse (bodyText body) = .error e) :
      Answers (.answer 200 body headers) (.error (.invalidJson (bodyText body) e))
  | notObject {body : List UInt8} {headers : List (String × String)} {v : Value}
      (h : Json.Document (bodyText body) v) (hv : ∀ entries, v ≠ .mapping entries) :
      Answers (.answer 200 body headers) (.error .notObject)
  | recorded {body : List UInt8} {headers : List (String × String)}
      {members : List (String × Value)} (h : Json.ObjectDocument (bodyText body) members)
      (hr : SaysRecorded members) : Answers (.answer 200 body headers) (.ok true)
  | unrecorded {body : List UInt8} {headers : List (String × String)}
      {members : List (String × Value)} (h : Json.ObjectDocument (bodyText body) members)
      (hr : ¬SaysRecorded members) : Answers (.answer 200 body headers) (.ok false)

/-- A document with members is a hit exactly if they say that something has been recorded. -/
theorem isHit_putMembers_iff {members : List (String × Value)} :
    isHit (Json.putMembers [] members) = true ↔ SaysRecorded members := by
  have hholds (name : String) :
      (Value.field? (Json.putMembers [] members) name).any Value.isTruthy = true ↔
        ∃ v, Json.IsLast members name v ∧ v.isTruthy = true := by
    simp only [Option.any_eq_true, Json.field?_putMembers_iff]
  unfold isHit SaysRecorded
  rw [Bool.or_eq_true, hholds, hholds]
  simp

/-- The answer in a document: an object says yes or no. -/
private def answerIn : Value → Except Http.AdapterError Bool
  | .mapping entries => .ok (isHit entries)
  | _ => .error .notObject

section Verdict

variable {status : Int} {body : List UInt8} {headers : List (String × String)}

private theorem verdict_badStatus (h404 : status ≠ 404) (h200 : status ≠ 200) :
    verdict (.answer status body headers) = .error (.badStatus status) := by
  unfold verdict
  rw [Http.Reply.read, ok_bind, if_neg h404, if_pos h200]
  rfl

private theorem verdict_ok :
    verdict (.answer 200 body headers) =
      (Json.parse (bodyText body)).mapError (.invalidJson (bodyText body)) >>= answerIn :=
  rfl

private theorem verdict_malformed {e : Json.Error} (h : Json.parse (bodyText body) = .error e) :
    verdict (.answer 200 body headers) = .error (.invalidJson (bodyText body) e) := by
  rw [verdict_ok, h, mapError_error, error_bind]

private theorem verdict_document {v : Value} (h : Json.parse (bodyText body) = .ok v) :
    verdict (.answer 200 body headers) = answerIn v := by
  rw [verdict_ok, h, mapError_ok, ok_bind]

end Verdict

/-- Each reply has an answer: the one that is found in it. -/
theorem answers_verdict (reply : Http.Reply) : Answers reply (verdict reply) := by
  cases reply with
  | failure fault => exact .failure
  | answer status body headers =>
    by_cases h404 : status = 404
    · subst h404
      exact .missing
    by_cases h200 : status = 200
    · subst h200
      cases hparse : Json.parse (bodyText body) with
      | error e =>
        rw [verdict_malformed hparse]
        exact .malformed hparse
      | ok v =>
        rw [verdict_document hparse]
        have hdoc := Json.parse_eq_ok_iff.mp hparse
        cases v with
        | mapping entries =>
          obtain ⟨members, hmembers, rfl⟩ := Json.document_mapping_iff.mp hdoc
          rw [answerIn]
          cases hhit : isHit (Json.putMembers [] members) with
          | true => exact .recorded hmembers (isHit_putMembers_iff.mp hhit)
          | false =>
            refine .unrecorded hmembers fun hr ↦ ?_
            rw [isHit_putMembers_iff.mpr hr] at hhit
            cases hhit
        | _ => exact .notObject hdoc nofun
    · rw [verdict_badStatus h404 h200]
      exact .badStatus h404 h200

/-- A reply has no other answer than the one that is found in it. -/
theorem Answers.eq_verdict {reply : Http.Reply} {result : Except Http.AdapterError Bool}
    (h : Answers reply result) : result = verdict reply := by
  have hobject {body : List UInt8} {headers : List (String × String)}
      {members : List (String × Value)} (h : Json.ObjectDocument (bodyText body) members) :
      verdict (.answer 200 body headers) = .ok (isHit (Json.putMembers [] members)) :=
    verdict_document (Json.parse_eq_ok_iff.mpr (Json.document_mapping_iff.mpr ⟨members, h, rfl⟩))
  cases h with
  | failure => rfl
  | missing => rfl
  | badStatus h404 h200 => exact (verdict_badStatus h404 h200).symm
  | malformed h => exact (verdict_malformed h).symm
  | @notObject _ _ v h hv =>
    rw [verdict_document (Json.parse_eq_ok_iff.mpr h)]
    cases v with
    | mapping entries => exact absurd rfl (hv entries)
    | _ => rfl
  | recorded h hr => rw [hobject h, isHit_putMembers_iff.mpr hr]
  | unrecorded h hr =>
    rw [hobject h, Bool.eq_false_iff.mpr fun hhit ↦ hr (isHit_putMembers_iff.mp hhit)]

/-! ### Look-ups -/

/-- Asks a callback server once what is recorded for a secret since a moment. -/
def hasInteraction (client : Client) (world : World W T) (secret : String)
    (since : Option Binary64) (w : W) :
    Except Http.UrlFault (Except Http.AdapterError Bool) × W :=
  match client.lookupRequest secret since with
  | .error fault => (.error fault, w)
  | .ok request =>
    let (reply, w) := world.exchange request w
    (.ok (verdict reply), w)

/-- A look-up of a wait asks once and takes an error as no. -/
theorem lookUp_eq (client : Client) (world : World W T) (secret : String) (moment : Binary64)
    (w : W) : client.lookUp world secret moment w =
      let (result, w) := client.hasInteraction world secret (some moment) w
      (result.map fun answer ↦ answer.toOption.getD false, w) := by
  unfold lookUp hasInteraction
  cases client.lookupRequest secret (some moment) with
  | error fault => rfl
  | ok request =>
    dsimp only
    cases verdict (world.exchange request w).1 <;> rfl

/-- If the request can be made, a look-up makes it and nothing else, and it comes to the one answer
of the reply. A look-up of a wait takes an error as no and does not fail. -/
theorem hasInteraction_answers {client : Client} {secret : String} {since : Option Binary64}
    {request : Http.Request} (hr : client.lookupRequest secret since = .ok request)
    (world : World W T) (w : W) (journal : List (Entry W T)) :
    ∃ result, (∀ other, Answers (world.exchange request w).1 other ↔ other = result) ∧
      client.hasInteraction world.journaled secret since (w, journal) =
        (.ok result, (world.asking request w).after, journal ++ [world.asking request w]) ∧
      ∀ moment, since = some moment →
        client.lookUp world.journaled secret moment (w, journal) =
          (.ok (result.toOption.getD false), (world.asking request w).after,
            journal ++ [world.asking request w]) := by
  have hask : client.hasInteraction world.journaled secret since (w, journal) =
      (.ok (verdict (world.exchange request w).1), (world.asking request w).after,
        journal ++ [world.asking request w]) := by
    unfold hasInteraction
    rw [hr]
    rfl
  refine ⟨verdict (world.exchange request w).1, fun other ↦ ?_, hask, ?_⟩
  · constructor
    · exact Answers.eq_verdict
    · rintro rfl
      exact answers_verdict _
  · rintro moment rfl
    rw [lookUp_eq, hask]
    rfl

/-- A name that is given twice counts with its last value. -/
theorem hasInteraction_answers_repeated :
    let client : Client := ⟨{ address := "192.0.2.10" }, by decide, {}⟩
    let reply : Http.Reply := .answer 200
      (Octets.encode "\x7b\"has_dns_interaction\": true, \"has_dns_interaction\": 0\x7d") []
    let world : World Unit Nat := ⟨fun w ↦ (0, w), fun _ w ↦ (reply, w), fun _ ↦ false, fun _ w ↦ w⟩
    ∃ request, client.lookupRequest "secret" none = .ok request ∧
      client.hasInteraction world.journaled "secret" none ((), []) =
        (.ok (.ok false), (), [⟨.asked request reply, ()⟩]) := by
  intro client reply world
  have hmade : (client.lookupRequest "secret" none).toOption.isSome = true := by
    decide +kernel +zetaReduce
  obtain ⟨request, hr⟩ := Option.isSome_iff_exists.mp hmade
  rw [toOption_eq_some_iff] at hr
  obtain ⟨result, hresult, hask, -⟩ := hasInteraction_answers hr world () []
  have hfalse : Answers reply (.ok false) := by
    have hverdict : (verdict reply).toOption = some false := by decide +kernel +zetaReduce
    rw [← toOption_eq_some_iff.mp hverdict]
    exact answers_verdict reply
  obtain rfl := (hresult _).mp hfalse
  exact ⟨request, hr, hask⟩

end VulnScanner.Callback.Client
