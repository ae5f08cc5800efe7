import Mathlib.Data.List.Forall2
import Reindex.Proofs.Http.Exchange
import Reindex.Proofs.Outcome
import Reindex.Secret.Vault

/-!
# Networks that are read alike

Of a response the program reads the status, and a token or a secret, or why there is none. Two networks
whose answers are the same in that treat requests alike.
-/

namespace Reindex.Http

/-- All that any reader makes of two responses is the same. -/
structure Response.ReadAlike (r r' : Response) : Prop where
  status : r.status = r'.status
  token : ∀ now, TokenAnswer.read now r = TokenAnswer.read now r'
  secret : ∀ label name, Vault.meaning label name r = Vault.meaning label name r'

inductive Answer.ReadAlike : Answer → Answer → Prop
  | same (a : Answer) : ReadAlike a a
  | response {r r' : Response} (h : r.ReadAlike r') : ReadAlike (.response r) (.response r')

/-- Two networks are of one kind and give answers that are read alike. -/
inductive Network.ReadAlike : Network → Network → Prop
  | unreachable : ReadAlike .unreachable .unreachable
  | scripted {answers answers' : List Answer} (h : List.Forall₂ Answer.ReadAlike answers answers') :
      ReadAlike (.scripted answers) (.scripted answers')

lemma Response.ReadAlike.refl (r : Response) : r.ReadAlike r := ⟨rfl, fun _ => rfl, fun _ _ => rfl⟩

/-- A status that has no body leaves nothing else to read. -/
lemma Response.ReadAlike.arriving {r r' : Response} (h : r.ReadAlike r') :
    r.arriving.ReadAlike r'.arriving := by
  unfold Response.arriving
  rw [h.status]
  split
  · exact .refl _
  · exact h

lemma Answer.ReadAlike.outcome {a a' : Answer} (h : a.ReadAlike a') :
    Agree Response.ReadAlike a.outcome a'.outcome := by
  cases h with
  | same a => exact .refl Response.ReadAlike.refl a.outcome
  | response h => exact .ok h.arriving

/-- Two exchanges are the same in all that is read of them. -/
structure Exchange.ReadAlike (e e' : Exchange) : Prop where
  outcome : Agree Response.ReadAlike e.outcome e'.outcome
  sent : e.sent = e'.sent
  network : e.network.ReadAlike e'.network

lemma Network.ReadAlike.exchange {n n' : Network} (hn : n.ReadAlike n') (r : Request) :
    (n.exchange r).ReadAlike (n'.exchange r) := by
  simp only [Network.exchange]
  split_ifs with hheaders hscheme hurl hhttp
  · exact ⟨.error _, rfl, hn⟩
  · exact ⟨.error _, rfl, hn⟩
  · exact ⟨.error _, rfl, hn⟩
  · cases hn with
    | unreachable => exact ⟨.error _, rfl, .unreachable⟩
    | scripted hanswers =>
      cases hanswers with
      | nil => exact ⟨.ok (.refl _), rfl, .scripted .nil⟩
      | cons hanswer hrest => exact ⟨hanswer.outcome, rfl, .scripted hrest⟩
  · cases hn with
    | unreachable => exact ⟨.error _, rfl, .unreachable⟩
    | scripted hanswers => exact ⟨.error _, rfl, .scripted hanswers⟩

end Reindex.Http
