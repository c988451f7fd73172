import ChatClient.Proofs.Assignments
import ChatClient.Proofs.Continuation.Single
import ChatClient.Proofs.Json.Values

/-!
# Envelopes mirror their payloads

The text of an envelope is kept twice, as a field and in the payload. Whoever holds an envelope may
change it in four ways (`Envelope.Change`). However often and in whatever order that happens, the
payload reads back as the fields say, and nothing in it but the text differs from the payload that
the envelope was read from (`Envelope.Mirrors`); the step lemma is `Envelope.Mirrors.change`.

A completed reply is the last envelope of its run with another text at most
(`Continuation.exists_run_of_complete`), so it mirrors the payload of that envelope, and it is never
truncated (`mirrors_of_ofBody_and_complete`).
-/

namespace ChatClient

namespace Envelope

/-- The payload of the envelope is `body` but for the text, and it reads back as the fields say. -/
structure Mirrors (e : Envelope) (body : Fields Json) : Prop where
  reread : ofBody e.body = .ok
    { result := e.result, isTruncated := e.isTruncated, isEnd := e.isEnd, body := e.body }
  keys : ∀ key, key ∈ Fields.keys e.body ↔ key ∈ Fields.keys body
  others : ∀ key, key ≠ "result" → Fields.get? key e.body = Fields.get? key body

/-- What whoever holds an envelope can do to it. -/
inductive Change where
  | replaceResult (text : String)
  | withStatus (status : Nat)
  | withHeaders (headers : Fields String)
  | withStatistics (statistics : Statistics)

namespace Change

/-- The text that is set. -/
def text? : Change → Option String
  | .replaceResult text => some text
  | _ => none

/-- The status that is set. -/
def status? : Change → Option Nat
  | .withStatus status => some status
  | _ => none

/-- The headers that are set. -/
def headers? : Change → Option (Fields String)
  | .withHeaders headers => some headers
  | _ => none

/-- The statistics that are set. -/
def statistics? : Change → Option Statistics
  | .withStatistics statistics => some statistics
  | _ => none

end Change

/-- The envelope after a change. -/
def change (e : Envelope) : Change → Envelope
  | .replaceResult text => e.replaceResult text
  | .withStatus status => e.withStatus status
  | .withHeaders headers => e.withHeaders headers
  | .withStatistics statistics => e.withStatistics statistics

/-- The envelope after changes, one after the other. -/
def changeAll (e : Envelope) (changes : List Change) : Envelope := changes.foldl change e

/-- What changes make of the fields: in each of those that can be set stands what was set last, and
the flags are never touched. -/
structure Assigned (e₀ : Envelope) (changes : List Change) (e : Envelope) : Prop where
  result : e.result = (lastOf Change.text? changes).getD e₀.result
  status : e.status = (lastOf Change.status? changes).getD e₀.status
  headers : e.headers = (lastOf Change.headers? changes).getD e₀.headers
  statistics : e.statistics = (lastOf Change.statistics? changes).getD e₀.statistics
  isTruncated : e.isTruncated = e₀.isTruncated
  isEnd : e.isEnd = e₀.isEnd

/-- The envelope was read from the payload, and changed since. -/
def MadeFrom (e : Envelope) (body : Fields Json) : Prop :=
  ∃ e₀ changes, ofBody body = .ok e₀ ∧ e = e₀.changeAll changes

section Reading

variable {body : Fields Json} {e : Envelope}

/-- An envelope that was read holds what its fields say and nothing else. -/
theorem eq_of_ofBody (h : ofBody body = .ok e) :
    e = { result := e.result, isTruncated := e.isTruncated, isEnd := e.isEnd, body } := by
  simp only [ofBody, bind, Except.bind, pure, Except.pure] at h
  split at h
  · cases h
  · split at h
    · cases h
    · split at h
      · cases h
      · cases h
        rfl

/-- What is accepted has a text. -/
theorem result_mem_keys (h : ofBody body = .ok e) : "result" ∈ Fields.keys body := by
  cases found : Fields.get? "result" body with
  | none => simp [ofBody, readResult, found, bind, Except.bind] at h
  | some v => exact List.mem_map_of_mem (Fields.mem_of_get? found)

end Reading

namespace Mirrors

variable {body : Fields Json} {e : Envelope}

theorem of_ofBody (h : ofBody body = .ok e) : e.Mirrors body := by
  have contents := eq_of_ofBody h
  have same : e.body = body := by rw [contents]
  refine ⟨?_, ?_, ?_⟩
  · rw [same, ← contents]
    exact h
  · intro key
    rw [same]
  · intro key _
    rw [same]

/-- A change of the text goes to the field and to the payload, any other change to neither. -/
theorem change (h : e.Mirrors body) (c : Change) : (e.change c).Mirrors body := by
  cases c with
  | replaceResult text =>
      refine ⟨?_, ?_, ?_⟩
      · exact ofBody_replaceResult_body text h.reread
      · intro key
        show key ∈ Fields.keys (Fields.insert "result" (.string text) e.body) ↔ _
        rw [Fields.mem_keys_insert, h.keys]
        -- the key of the text is one of the payload's already
        have known : "result" ∈ Fields.keys body := (h.keys _).1 (result_mem_keys h.reread)
        constructor
        · rintro (rfl | other)
          · exact known
          · exact other
        · exact .inr
      · intro key other
        show Fields.get? key (Fields.insert "result" (.string text) e.body) = _
        rw [Fields.get?_insert, if_neg other.symm]
        exact h.others key other
  | withStatus | withHeaders | withStatistics => exact ⟨h.reread, h.keys, h.others⟩

theorem changeAll (h : e.Mirrors body) (changes : List Change) :
    (e.changeAll changes).Mirrors body := by
  induction changes generalizing e with
  | nil => exact h
  | cons c changes ih => exact ih (h.change c)

end Mirrors

theorem MadeFrom.mirrors {body : Fields Json} {e : Envelope} (h : e.MadeFrom body) :
    e.Mirrors body := by
  obtain ⟨e₀, changes, read, rfl⟩ := h
  exact (Mirrors.of_ofBody read).changeAll changes

theorem MadeFrom.change {body : Fields Json} {e : Envelope} (h : e.MadeFrom body) (c : Change) :
    (e.change c).MadeFrom body := by
  obtain ⟨e₀, changes, read, rfl⟩ := h
  refine ⟨e₀, changes ++ [c], read, ?_⟩
  rw [changeAll, changeAll, List.foldl_append, List.foldl_cons, List.foldl_nil]

theorem assigned_changeAll (e : Envelope) (changes : List Change) :
    e.Assigned changes (e.changeAll changes) where
  result := view_foldl change result Change.text? (by intro e c; cases c <;> rfl) e changes
  status := view_foldl change status Change.status? (by intro e c; cases c <;> rfl) e changes
  headers := view_foldl change headers Change.headers? (by intro e c; cases c <;> rfl) e changes
  statistics :=
    view_foldl change statistics Change.statistics? (by intro e c; cases c <;> rfl) e changes
  isTruncated := view_foldl_of_kept change isTruncated (by intro e c; cases c <;> rfl) e changes
  isEnd := view_foldl_of_kept change isEnd (by intro e c; cases c <;> rfl) e changes

end Envelope

namespace Continuation

variable {σ : Type} {c : Continuation} {E : Executor σ} {g : Regime} {first e : Envelope}
  {w w' : World σ}

/-- A completed reply is the last envelope of its run, which is whole, with another text at most. -/
theorem exists_run_of_complete (h : c.complete E g first w = (.ok e, w')) :
    ∃ rs v, c.SingleRun E g first rs w v ∧ (rs.getLastD first).isTruncated = false ∧
      (e = rs.getLastD first ∨ ∃ text, e = (rs.getLastD first).replaceResult text) := by
  obtain ⟨rs, v, run, ending⟩ := (SingleRun.nil c E g first w).exists_ending
  refine ⟨rs, v, run, ?_⟩
  cases ending with
  | whole whole =>
      rw [run.complete_of_whole whole] at h
      refine ⟨whole, ?_⟩
      split at h
      · cases h
        exact .inr ⟨_, rfl⟩
      · cases h
        exact .inl rfl
  | capped cut cap =>
      rw [run.complete_of_cap cut cap] at h
      cases h
  | unanswered cut allowed o v' e' asked unanswered =>
      rw [run.complete_of_unanswered cut allowed asked unanswered] at h
      cases h

end Continuation

/-- Envelopes mirror their payloads. An object that is accepted is read as an envelope, and whatever
its holder does to it then, its payload reads back as its fields say, has the keys of the object, and
differs from it in the text at most; of the values set for a field the last one counts, and a new text
touches no other field.

A completed reply mirrors the payload of the last envelope of its run, whatever was done to that one
before, and it is not truncated. -/
theorem mirrors_of_ofBody_and_complete :
    (∀ v e₀, Envelope.ofJson v = .ok e₀ ↔ ∃ body, v = .object body ∧ Envelope.ofBody body = .ok e₀) ∧
    (∀ body e₀, Envelope.ofBody body = .ok e₀ → ∀ changes : List Envelope.Change,
      (e₀.changeAll changes).Mirrors body ∧ e₀.Assigned changes (e₀.changeAll changes)) ∧
    (∀ (e : Envelope) text, e.Reworded text (e.replaceResult text)) ∧
    ∀ {σ : Type} (c : Continuation) (E : Executor σ) (g : Regime) (first e : Envelope)
      (w w' : World σ), c.complete E g first w = (.ok e, w') →
      e.isTruncated = false ∧
        ∃ rs v, c.SingleRun E g first rs w v ∧
          ∀ body, (rs.getLastD first).MadeFrom body → e.MadeFrom body ∧ e.Mirrors body := by
  refine ⟨?_, ?_, Envelope.reworded_replaceResult, ?_⟩
  · intro v e₀
    constructor
    · intro read
      cases v with
      | object body => exact ⟨body, rfl, read⟩
      | _ => cases read
    · rintro ⟨body, rfl, read⟩
      exact read
  · intro body e₀ read changes
    exact ⟨(Envelope.Mirrors.of_ofBody read).changeAll changes, e₀.assigned_changeAll changes⟩
  · intro σ c E g first e w w' completed
    obtain ⟨rs, v, run, whole, same⟩ := Continuation.exists_run_of_complete completed
    rcases same with rfl | ⟨text, rfl⟩
    · exact ⟨whole, rs, v, run, fun body made => ⟨made, made.mirrors⟩⟩
    · refine ⟨whole, rs, v, run, fun body made => ?_⟩
      have reworded := made.change (.replaceResult text)
      exact ⟨reworded, reworded.mirrors⟩

/-- A payload with an end flag of null, whose text is replaced twice, and the same payload as the last
of two calls. -/
theorem mirrors_of_null_end_and_two_calls :
    let body : Fields Json :=
      [("id", .string "as-1"), ("is_end", .null), ("is_truncated", .bool false),
        ("result", .string "cd")]
    let e₀ : Envelope := { result := "cd", isTruncated := false, isEnd := true, body }
    let changes : List Envelope.Change :=
      [.replaceResult "x", .withStatus 201, .replaceResult "abcd"]
    let k : Continuation := ⟨{ messages := [⟨.user, "hi"⟩] }, some 1⟩
    let w : World Script := { supplier := [.ok (.single e₀)] }
    (Envelope.ofBody body = .ok e₀ ∧ (e₀.changeAll changes).Mirrors body ∧
      (e₀.changeAll changes).result = "abcd") ∧
    ∃ e w', k.complete Script.executor .blocking (.fragment "ab" true) w = (.ok e, w') ∧
      e.result = "abcd" ∧ e.isTruncated = false := by
  intro body e₀ changes k w
  have read : Envelope.ofBody body = .ok e₀ := rfl
  obtain ⟨-, changed, -, returned⟩ := mirrors_of_ofBody_and_complete
  obtain ⟨mirrors, assigned⟩ := changed body e₀ read changes
  have run : k.SingleRun Script.executor .blocking (.fragment "ab" true) [e₀] w _ :=
    ⟨by decide, fun m hm => by cases hm; decide, rfl⟩
  obtain ⟨e, w', completed, text, -⟩ := run.result_of_whole rfl
  obtain ⟨whole, -⟩ := returned k Script.executor .blocking _ e w w' completed
  exact ⟨⟨read, mirrors, assigned.result⟩, e, w', completed, text, whole⟩

end ChatClient
