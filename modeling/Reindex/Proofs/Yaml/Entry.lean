import Mathlib.Tactic.Common
import Reindex.Yaml.Decode

/-!
# What a document says under a key

A view of documents that does not depend on what is expected of them: the node under a key, or under
several keys one inside the other. Whoever reads the fields of a record finds just these nodes.
-/

namespace Reindex.Yaml

namespace Node

/-- The node that a mapping has under a key. No other node has anything under a key. -/
def under? (n root : Node) (key : String) : Option Node :=
  match n.resolve root with
  | .mapping entries => (entries.find? fun e => Decoder.text root e.1 = some key).map Prod.snd
  | _ => none

/-- The node under several keys, each of them inside the one before it. -/
def at? (root : Node) : List String → Node → Option Node
  | [], n => some n
  | key :: keys, n => (n.under? root key).bind (at? root keys)

@[simp] lemma at?_singleton (root n : Node) (key : String) :
    at? root [key] n = n.under? root key := by
  simp only [at?, Option.bind_fun_some]

@[simp] lemma at?_pair (root n : Node) (key inner : String) :
    at? root [key, inner] n = (n.under? root key).bind fun m => m.under? root inner := by
  simp only [at?, Option.bind_fun_some]

end Node

/-- The node that a document is read as. -/
def Document.node : Document → Node
  | .nothing => .empty
  | .root n => n

lemma Document.decode?_eq {α : Type} (d : Decoder α) (doc : Document) :
    doc.decode? d = d doc.node doc.node := by
  cases doc <;> rfl

namespace Decoder

lemma lookup_eq {key : String} {entries : List (String × Node)} {value : Option Node}
    (h : lookup key entries = some value) :
    value = (entries.find? fun e => e.1 == key).map Prod.snd := by
  rw [← List.head?_filter]
  simp only [lookup] at h
  cases hfound : entries.filter fun e => e.1 == key with
  | nil =>
    rw [hfound] at h
    cases h
    rfl
  | cons e rest =>
    rw [hfound] at h
    cases rest with
    | nil =>
      cases h
      rfl
    | cons e' rest => cases h

/-- The keys of a mapping are texts, and what is under a text stays there. -/
lemma find?_keys {root : Node} {entries : List (Node × Node)} :
    ∀ {named : List (String × Node)},
      entries.mapM (fun (k, v) => (text root k).map (·, v)) = some named → ∀ key,
        (named.find? fun e => e.1 == key).map Prod.snd =
          (entries.find? fun e => text root e.1 = some key).map Prod.snd := by
  induction entries with
  | nil =>
    intro named h key
    cases h
    rfl
  | cons e rest ih =>
    intro named h key
    obtain ⟨k, v⟩ := e
    rw [List.mapM_cons] at h
    obtain ⟨e', he', h⟩ := Option.bind_eq_some_iff.mp h
    obtain ⟨named', hrest, h⟩ := Option.bind_eq_some_iff.mp h
    obtain ⟨name, hname, rfl⟩ := Option.map_eq_some_iff.mp he'
    cases h
    by_cases hkey : name = key
    · subst hkey
      rw [List.find?_cons_of_pos (by simp), List.find?_cons_of_pos (by simp [hname])]
      rfl
    · rw [List.find?_cons_of_neg (by simpa using hkey),
        List.find?_cons_of_neg (by simpa [hname] using hkey)]
      exact ih hrest key

lemma mapM_lookup_eq {entries : List (String × Node)} {found : String → Option Node}
    (hfound : ∀ key, (entries.find? fun e => e.1 == key).map Prod.snd = found key)
    {names : List String} : ∀ {values : List (Option Node)},
      names.mapM (lookup · entries) = some values → values = names.map found := by
  induction names with
  | nil =>
    intro values h
    cases h
    rfl
  | cons name rest ih =>
    intro values h
    rw [List.mapM_cons] at h
    obtain ⟨value, hvalue, h⟩ := Option.bind_eq_some_iff.mp h
    obtain ⟨values', hrest, h⟩ := Option.bind_eq_some_iff.mp h
    cases h
    rw [List.map_cons, ← ih hrest, lookup_eq hvalue, hfound]

/-- The values of fields are what the record has under their names. -/
lemma fields_eq {names : List String} {root n : Node} {values : List (Option Node)}
    (h : fields names root n = some values) : values = names.map (n.under? root) := by
  unfold fields at h
  have hfound : ∀ key, n.under? root key = match n.resolve root with
      | .mapping entries => (entries.find? fun e => text root e.1 = some key).map Prod.snd
      | _ => none := fun key => rfl
  split at h
  · next entries hn =>
    obtain ⟨named, hnamed, h⟩ := Option.bind_eq_some_iff.mp h
    refine mapM_lookup_eq (fun key => ?_) h
    rw [find?_keys hnamed key, hfound, hn]
  · next hn =>
    cases h
    refine List.map_congr_left fun key _ => ?_
    rw [hfound, hn]
  · cases h

end Decoder

end Reindex.Yaml
