import ChatClient.Proofs.Text.Quoted
import ChatClient.Settings.Rendering
import Mathlib.Data.List.Basic

/-!
# What masked secrets disclose

Two credentials are shown alike just if the same secrets are set in both and begin with the same four
characters (`Credentials.masked_eq_iff`). So a secret of four or more characters is hidden among all
those that begin like it, while a shorter one is shown as it is and can be read off
(`Credentials.masked_hides_long_secrets`).
-/

namespace ChatClient

/-! ## One secret -/

namespace Credentials

/-- The part of a secret that is shown. -/
def visible (secret : String) : List Char := secret.toList.take 4

theorem mask_eq_iff {s t : String} : mask s = mask t ↔ visible s = visible t := by
  rw [mask, mask, String.append_left_inj, String.ofList_inj]
  rfl

theorem map_mask_eq_iff {o p : Option String} :
    o.map mask = p.map mask ↔ o.map visible = p.map visible := by
  cases o <;> cases p <;> simp [mask_eq_iff]

/-- Another secret begins alike just if there are four characters to begin with. -/
theorem exists_visible_eq_iff (secret : String) :
    (∃ other, other ≠ secret ∧ visible other = visible secret) ↔ 4 ≤ secret.toList.length := by
  constructor
  · rintro ⟨other, differs, same⟩
    by_contra short
    have whole : visible secret = secret.toList := List.take_of_length_le (by omega)
    rw [whole] at same
    -- what is shown of the other secret is shorter than four characters, so it is all of it
    have shown := congrArg List.length same
    rw [visible, List.length_take] at shown
    have whole' : visible other = other.toList := List.take_of_length_le (by omega)
    exact differs (String.toList_inj.1 (whole'.symm.trans same))
  · intro long
    -- a mask does not show how long a secret is
    refine ⟨secret ++ "*", ?_, ?_⟩
    · intro same
      have lengths := congrArg (fun s => s.toList.length) same
      simp at lengths
    · rw [visible, String.toList_append, List.take_append_of_le_length long]
      rfl

/-! ## All secrets -/

/-- The secrets that credentials are made of. -/
inductive Field where
  | ak
  | sk
  | accessToken
deriving DecidableEq

/-- The secret in a field. -/
def Field.get (c : Credentials) : Field → Option String
  | .ak => c.ak
  | .sk => c.sk
  | .accessToken => c.accessToken

/-- The credentials with another content of a field. -/
def Field.set (c : Credentials) (content : Option String) : Field → Credentials
  | .ak => { c with ak := content }
  | .sk => { c with sk := content }
  | .accessToken => { c with accessToken := content }

/-- The credentials differ in that field, and in no other. -/
structure DifferIn (field : Field) (c d : Credentials) : Prop where
  differ : field.get c ≠ field.get d
  agree : ∀ other, other ≠ field → other.get c = other.get d

theorem get_set (c : Credentials) (content : Option String) (field : Field) :
    field.get (field.set c content) = content := by cases field <;> rfl

theorem get_set_of_ne {field other : Field} (ne : other ≠ field) (c : Credentials)
    (content : Option String) : other.get (field.set c content) = other.get c := by
  cases field <;> cases other <;> first | rfl | cases ne rfl

/-- Credentials are shown alike just if the same fields are set and begin alike. -/
theorem masked_eq_iff {c d : Credentials} :
    c.masked = d.masked ↔ ∀ field : Field, (field.get c).map visible = (field.get d).map visible := by
  constructor
  · intro same
    unfold masked at same
    simp only [String.append_assoc, String.append_right_inj] at same
    -- a quoted mask ends at its closing quote, so the three are told apart from left to right
    obtain ⟨ak, same⟩ := quotedOption_append_inj same
    obtain ⟨sk, same⟩ := quotedOption_append_inj ((String.append_right_inj _).1 same)
    obtain ⟨token, -⟩ := quotedOption_append_inj ((String.append_right_inj _).1 same)
    intro field
    cases field with
    | ak => exact map_mask_eq_iff.1 ak
    | sk => exact map_mask_eq_iff.1 sk
    | accessToken => exact map_mask_eq_iff.1 token
  · intro alike
    have ak : c.ak.map mask = d.ak.map mask := map_mask_eq_iff.2 (alike .ak)
    have sk : c.sk.map mask = d.sk.map mask := map_mask_eq_iff.2 (alike .sk)
    have token : c.accessToken.map mask = d.accessToken.map mask :=
      map_mask_eq_iff.2 (alike .accessToken)
    unfold masked
    rw [ak, sk, token]

/-- A field is hidden by the mask just if it holds a secret of four or more characters. -/
theorem exists_masked_eq_iff (c : Credentials) (field : Field) :
    (∃ d, DifferIn field c d ∧ d.masked = c.masked) ↔
      ∃ secret, field.get c = some secret ∧ 4 ≤ secret.toList.length := by
  constructor
  · rintro ⟨d, differ, same⟩
    have alike := masked_eq_iff.1 same field
    have differs := differ.differ
    cases here : field.get c with
    | none =>
        rw [here] at alike differs
        exact absurd (Option.map_eq_none_iff.1 alike).symm differs
    | some secret =>
        rw [here] at alike differs
        obtain ⟨other, there, begins⟩ := Option.map_eq_some_iff.1 alike
        rw [there] at differs
        refine ⟨secret, rfl, (exists_visible_eq_iff secret).1 ⟨other, ?_, begins⟩⟩
        exact fun e => differs (congrArg some e.symm)
  · rintro ⟨secret, here, long⟩
    obtain ⟨other, differs, begins⟩ := (exists_visible_eq_iff secret).2 long
    -- the other credentials have the longer secret in that field
    refine ⟨field.set c (some other), ⟨?_, fun g ne => (get_set_of_ne ne c _).symm⟩, ?_⟩
    · rw [get_set, here]
      exact fun e => differs (Option.some.inj e).symm
    · apply masked_eq_iff.2
      intro g
      by_cases e : g = field
      · rw [e, get_set, here, Option.map_some, Option.map_some, begins]
      · rw [get_set_of_ne e]

end Credentials

/-- Settings with different credentials are shown alike just if the credentials are. -/
theorem Settings.inspect_eq_iff (s : Settings) (codes : List Int) (c d : Credentials) :
    { s with credentials := c }.inspect codes = { s with credentials := d }.inspect codes ↔
      c.masked = d.masked := by
  unfold Settings.inspect
  simp only [String.append_assoc, String.append_right_inj]
  exact String.append_left_inj _

/-- Whether credentials are shown alike, by themselves and among settings, depends on which secrets are
set and on the first four characters of each. So what is shown leaves a secret open if it has four or
more characters, and determines it if it has fewer. -/
theorem Credentials.masked_hides_long_secrets (c : Credentials) :
    (∀ d : Credentials, c.masked = d.masked ↔
      ∀ field : Field, (field.get c).map visible = (field.get d).map visible) ∧
    (∀ field : Field, (∃ d, DifferIn field c d ∧ d.masked = c.masked) ↔
      ∃ secret, field.get c = some secret ∧ 4 ≤ secret.toList.length) ∧
    ∀ (s : Settings) (codes : List Int) (d : Credentials),
      { s with credentials := c }.inspect codes = { s with credentials := d }.inspect codes ↔
        c.masked = d.masked := by
  refine ⟨?_, ?_, ?_⟩
  · intro d
    exact masked_eq_iff
  · exact exists_masked_eq_iff c
  · intro s codes d
    exact s.inspect_eq_iff codes c d

/-- A secret of three characters can be read off. -/
theorem Credentials.masked_shows_short_secret :
    ¬∃ d, DifferIn .ak { ak := some "abc" } d ∧
      d.masked = ({ ak := some "abc" } : Credentials).masked := by
  rw [exists_masked_eq_iff]
  rintro ⟨secret, set, long⟩
  cases set
  revert long
  decide

end ChatClient
