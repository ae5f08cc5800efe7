import Reindex.Proofs.Http.Exchange
import Reindex.Proofs.Json.Codes
import Reindex.Secret.Vault

/-!
# Networks that differ in the codes of errors

An answer that is no good one may name an error by a code. Two networks whose answers differ in the
values in such codes, and in nothing else that is read of them, treat requests alike.
-/

namespace Reindex.Http

open Redaction (SameButValue)

/-- Two bodies are read alike, whatever they are read for, but for the values in the codes of errors. -/
structure Body.SameButCodes (b b' : Body) : Prop where
  complete : b.complete = b'.complete
  /-- The same secret is read from both, or none. -/
  secret : Vault.value? b = Vault.value? b'
  /-- The same token is read from both, or none. -/
  token : TokenAnswer.grant? b.lossyText = TokenAnswer.grant? b'.lossyText
  /-- A token endpoint says the same is wrong, but for the value in its code. -/
  complaint : Option.Rel (fun c c' => SameButValue c.1 c'.1 ∧ c.2 = c'.2)
    (TokenAnswer.complaint? b.lossyText) (TokenAnswer.complaint? b'.lossyText)
  /-- A vault names the same error, but for the value in its code. -/
  code : Option.Rel SameButValue (Vault.errorCode? b.lossyText) (Vault.errorCode? b'.lossyText)

/-- Two responses have the same status, and bodies that are read alike but for the values in codes. -/
structure Response.SameButCodes (r r' : Response) : Prop where
  status : r.status = r'.status
  body : r.body.SameButCodes r'.body

inductive Answer.SameButCodes : Answer → Answer → Prop
  | same (a : Answer) : SameButCodes a a
  | response {r r' : Response} (h : r.SameButCodes r') : SameButCodes (.response r) (.response r')

/-- Two networks are of one kind and give the same answers but for the values in codes. -/
inductive Network.SameButCodes : Network → Network → Prop
  | unreachable : SameButCodes .unreachable .unreachable
  | scripted {answers answers' : List Answer} (h : List.Forall₂ Answer.SameButCodes answers answers') :
      SameButCodes (.scripted answers) (.scripted answers')

lemma Body.SameButCodes.refl (b : Body) : b.SameButCodes b where
  complete := rfl
  secret := rfl
  token := rfl
  complaint := rel_refl (fun c => ⟨.same c.1, rfl⟩) _
  code := rel_refl .same _

/-- Texts that spell the same JSON but for the codes of errors are read alike but for the values in
them. -/
lemma Body.SameButCodes.ofText {text text' : String}
    (h : Option.Rel Json.SameButCodes (Json.readText? text) (Json.readText? text')) :
    (Body.ofText text).SameButCodes (Body.ofText text') where
  complete := rfl
  secret := by
    have hoctets : Option.Rel Json.SameButCodes (Json.read? (Body.ofText text).octets)
        (Json.read? (Body.ofText text').octets) := h
    apply rel_eq
    refine rel_bind hoctets fun j j' hj => ?_
    rw [hj.fields?_eq (by decide)]
    exact rel_refl (fun _ => rfl) _
  token := by
    rw [lossyText_ofText, lossyText_ofText]
    apply rel_eq
    refine rel_bind h fun j j' hj => ?_
    rw [hj.fields?_eq (by decide)]
    exact rel_refl (fun _ => rfl) _
  complaint := by
    rw [lossyText_ofText, lossyText_ofText]
    refine rel_bind h fun j j' hj => rel_bind (hj.fields?_cons (by decide)) fun fields fields' hfields => ?_
    obtain ⟨error, error', rest, herror, rfl, rfl⟩ := hfields
    rcases rest with _ | ⟨description, _ | ⟨_, _⟩⟩
    · exact .none
    · cases herror with
      | text hcode =>
        cases hcode with
        | text hvalue =>
          refine rel_bind (.some hvalue) fun code code' hcode => ?_
          refine rel_bind (rel_refl (fun _ => rfl) (Json.optionalText? description)) fun d d' hd => ?_
          exact .some ⟨hcode, hd⟩
      | record hrecord =>
        cases hrecord
        exact .none
    · exact .none
  code := by
    rw [lossyText_ofText, lossyText_ofText]
    refine rel_bind h fun j j' hj => rel_bind (hj.fields?_cons (by decide)) fun fields fields' hfields => ?_
    obtain ⟨error, error', rest, herror, rfl, rfl⟩ := hfields
    cases rest with
    | cons _ _ => exact .none
    | nil =>
      cases herror with
      | text hcode =>
        cases hcode
        exact .none
      | record hrecord =>
        refine rel_bind (hrecord.fields?_cons (by decide)) fun fields fields' hfields => ?_
        obtain ⟨code, code', rest, hcode, rfl, rfl⟩ := hfields
        cases rest with
        | cons _ _ => exact .none
        | nil =>
          cases hcode with
          | text hvalue => exact .some hvalue

lemma Response.SameButCodes.refl (r : Response) : r.SameButCodes r := ⟨rfl, .refl r.body⟩

lemma Response.SameButCodes.arriving {r r' : Response} (h : r.SameButCodes r') :
    r.arriving.SameButCodes r'.arriving := by
  unfold Response.arriving
  rw [h.status]
  split
  · exact ⟨rfl, .refl _⟩
  · exact h

lemma Answer.SameButCodes.outcome {a a' : Answer} (h : a.SameButCodes a') :
    Agree Response.SameButCodes a.outcome a'.outcome := by
  cases h with
  | same a => exact .refl Response.SameButCodes.refl a.outcome
  | response h => exact .ok h.arriving

/-- Two exchanges are the same but for the values in codes. -/
structure Exchange.SameButCodes (e e' : Exchange) : Prop where
  outcome : Agree Response.SameButCodes e.outcome e'.outcome
  sent : e.sent = e'.sent
  network : e.network.SameButCodes e'.network

lemma Network.SameButCodes.exchange {n n' : Network} (hn : n.SameButCodes n') (r : Request) :
    (n.exchange r).SameButCodes (n'.exchange r) := by
  simp only [Network.exchange]
  split_ifs with hheaders hscheme hurl hhttp
  · exact ⟨.error _, rfl, hn⟩
  · exact ⟨.error _, rfl, hn⟩
  · exact ⟨.error _, rfl, hn⟩
  · cases hn with
    | unreachable => exact ⟨.error _, rfl, .unreachable⟩
    | scripted hanswers =>
      cases hanswers with
      | nil => exact ⟨.ok (.refl _), rfl, .scripted .nil⟩
      | cons hanswer hrest => exact ⟨hanswer.outcome, rfl, .scripted hrest⟩
  · cases hn with
    | unreachable => exact ⟨.error _, rfl, .unreachable⟩
    | scripted hanswers => exact ⟨.error _, rfl, .scripted hanswers⟩

end Reindex.Http
