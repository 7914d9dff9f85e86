import Remme.Lib.Dict
import Remme.Lib.StoreM
/-!
# Caches in front of a store

A store is asked for lists of keys.  It denies a list with a key that may not be
read; otherwise it answers with entries, where a key without a value may be left
out or come with no value.  A cache keeps the entries of the answers.  While it
is valid, a read through it is a read of the store, and so is a whole program.
-/

namespace Remme.Lib

variable {κ ν δ ε α : Type}

/-- What the store answers to a request for some keys. -/
structure Answers (store : κ → Option ν) (readable : κ → Prop) (keys : List κ)
    (reply : Except δ (List (κ × Option ν))) : Prop where
  granted : (∀ k ∈ keys, readable k) → ∃ entries, reply = .ok entries
  denied : ∀ k ∈ keys, ¬readable k → ∃ e, reply = .error e
  truthful : ∀ entries, reply = .ok entries → ∀ entry ∈ entries,
    entry.1 ∈ keys ∧ entry.2 = store entry.1
  complete : ∀ entries, reply = .ok entries → ∀ k ∈ keys, ∀ v, store k = some v →
    (k, some v) ∈ entries

namespace ReadCache

/-- Every cached key may be read, and is cached with what the store holds. -/
def Valid [DecidableEq κ] (store : κ → Option ν) (readable : κ → Prop)
    (cache : Dict κ (Option ν)) : Prop :=
  ∀ k o, cache.get? k = some o → readable k ∧ o = store k

variable [DecidableEq κ] {store : κ → Option ν} {readable : κ → Prop}
  {cache : Dict κ (Option ν)} {reply : Except δ (List (κ × Option ν))} {k : κ} {keys : List κ}

/-- The value in the reply to a request for one key. -/
def reply? (denied : κ → ε) (k : κ) : Except δ (List (κ × Option ν)) → Except ε (Option ν)
  | .ok [] => .ok none
  | .ok (entry :: _) => .ok entry.2
  | .error _ => .error (denied k)

/-- A read of a key: from the cache, or else from the reply to a request for this key alone. -/
def read (denied : κ → ε) (cache : Dict κ (Option ν)) (k : κ)
    (reply : Except δ (List (κ × Option ν))) : Dict κ (Option ν) × Except ε (Option ν) :=
  match cache.get? k with
  | some o => (cache, .ok o)
  | none =>
      match reply with
      | .ok [] => (cache, .ok none)
      | .ok (entry :: _) => (cache.set k entry.2, .ok entry.2)
      | .error _ => (cache, .error (denied k))

theorem valid_empty : Valid store readable (.empty : Dict κ (Option ν)) := by
  intro k o h
  cases h

theorem Valid.set (h : Valid store readable cache) (hreadable : readable k) :
    Valid store readable (cache.set k (store k)) := by
  intro k' o hget
  rw [Dict.get?_set] at hget
  split_ifs at hget with heq
  · subst heq
    exact ⟨hreadable, (Option.some.inj hget).symm⟩
  · exact h k' o hget

/-- A request for several keys, all of whose entries are kept. -/
theorem Valid.setAll (h : Valid store readable cache) {entries : List (κ × Option ν)}
    (hanswers : Answers store readable keys (.ok entries : Except δ (List (κ × Option ν)))) :
    Valid store readable (cache.setAll entries) := by
  intro k o hget
  rcases Dict.mem_of_get?_setAll hget with hentry | hcached
  · obtain ⟨hkey, hvalue⟩ := hanswers.truthful entries rfl (k, o) hentry
    refine ⟨?_, hvalue⟩
    by_contra hdenied
    obtain ⟨e, he⟩ := hanswers.denied k hkey hdenied
    cases he
  · exact h k o hcached

end ReadCache

/-! ## One read -/

namespace Answers

variable {store : κ → Option ν} {readable : κ → Prop} {k : κ} {entry : κ × Option ν}
  {rest : List (κ × Option ν)} {reply : Except δ (List (κ × Option ν))}

theorem readable_of_ok {entries : List (κ × Option ν)}
    (h : Answers store readable [k] (.ok entries : Except δ (List (κ × Option ν)))) :
    readable k := by
  by_contra hdenied
  obtain ⟨e, he⟩ := h.denied k (by simp) hdenied
  cases he

theorem not_readable_of_error {e : δ} (h : Answers store readable [k] (.error e)) :
    ¬readable k := by
  intro hreadable
  obtain ⟨entries, hentries⟩ := h.granted (by simpa using hreadable)
  cases hentries

theorem eq_none_of_nil (h : Answers store readable [k] (.ok [] : Except δ (List (κ × Option ν)))) :
    store k = none := by
  rw [Option.eq_none_iff_forall_ne_some]
  intro v hv
  have hmem := h.complete [] rfl k (by simp) v hv
  cases hmem

theorem head_eq (h : Answers store readable [k] (.ok (entry :: rest) :
    Except δ (List (κ × Option ν)))) : entry.2 = store k := by
  obtain ⟨hkey, hvalue⟩ := h.truthful _ rfl entry (by simp)
  rwa [List.mem_singleton.mp hkey] at hvalue

/-- A store that answers with an entry for every key it was asked for. -/
theorem of_all {keys : List κ} (h : ∀ k ∈ keys, readable k) :
    Answers store readable keys (.ok (keys.map fun k => (k, store k)) :
      Except δ (List (κ × Option ν))) where
  granted := fun _ => ⟨_, rfl⟩
  denied := fun k hk hdenied => absurd (h k hk) hdenied
  truthful := by
    rintro _ ⟨rfl⟩ entry hentry
    obtain ⟨k, hk, rfl⟩ := List.mem_map.mp hentry
    exact ⟨hk, rfl⟩
  complete := by
    rintro _ ⟨rfl⟩ k hk v hv
    exact List.mem_map.mpr ⟨k, hk, by rw [hv]⟩

/-- A store that leaves the keys without a value out. -/
theorem of_present {keys : List κ} (h : ∀ k ∈ keys, readable k) :
    Answers store readable keys
      (.ok ((keys.filter fun k => (store k).isSome).map fun k => (k, store k)) :
        Except δ (List (κ × Option ν))) where
  granted := fun _ => ⟨_, rfl⟩
  denied := fun k hk hdenied => absurd (h k hk) hdenied
  truthful := by
    rintro _ ⟨rfl⟩ entry hentry
    obtain ⟨k, hk, rfl⟩ := List.mem_map.mp hentry
    exact ⟨List.mem_of_mem_filter hk, rfl⟩
  complete := by
    rintro _ ⟨rfl⟩ k hk v hv
    exact List.mem_map.mpr ⟨k, List.mem_filter.mpr ⟨hk, by rw [hv]; rfl⟩, by rw [hv]⟩

theorem of_denied {e : δ} (h : ¬readable k) :
    Answers store readable [k] (.error e : Except δ (List (κ × Option ν))) where
  granted := fun hall => absurd (hall k (by simp)) h
  denied := fun _ _ _ => ⟨e, rfl⟩
  truthful := by
    intro entries hentries
    cases hentries
  complete := by
    intro entries hentries
    cases hentries

/-- The value that every lawful reply to a request for one key has. -/
theorem reply?_eq [DecidablePred readable] (h : Answers store readable [k] reply)
    (denied : κ → ε) :
    ReadCache.reply? denied k reply = if readable k then .ok (store k) else .error (denied k) := by
  cases reply with
  | error e => exact (if_neg h.not_readable_of_error).symm
  | ok entries =>
      rw [if_pos h.readable_of_ok]
      cases entries with
      | nil => exact congrArg Except.ok h.eq_none_of_nil.symm
      | cons entry rest => exact congrArg Except.ok h.head_eq

end Answers

namespace ReadCache

variable [DecidableEq κ] {store : κ → Option ν} {readable : κ → Prop}
  {cache : Dict κ (Option ν)} {reply : Except δ (List (κ × Option ν))} {k : κ}

/-- A read through a valid cache is a read of the store. -/
theorem Valid.read_eq [DecidablePred readable] (h : Valid store readable cache)
    (hanswers : cache.get? k = none → Answers store readable [k] reply) (denied : κ → ε) :
    (read denied cache k reply).2 = if readable k then .ok (store k) else .error (denied k) := by
  unfold read
  cases hget : cache.get? k with
  | some o =>
      obtain ⟨hreadable, rfl⟩ := h k o hget
      exact (if_pos hreadable).symm
  | none =>
      rw [← (hanswers hget).reply?_eq denied]
      rcases reply with e | (_ | ⟨entry, rest⟩) <;> rfl

theorem Valid.read_valid (h : Valid store readable cache)
    (hanswers : cache.get? k = none → Answers store readable [k] reply) (denied : κ → ε) :
    Valid store readable (read denied cache k reply).1 := by
  unfold read
  cases hget : cache.get? k with
  | some o => exact h
  | none =>
      have hlawful := hanswers hget
      cases reply with
      | error e => exact h
      | ok entries =>
          cases entries with
          | nil => exact h
          | cons entry rest =>
              change Valid store readable (cache.set k entry.2)
              rw [hlawful.head_eq]
              exact h.set hlawful.readable_of_ok

/-! ## Programs -/

/-- The meaning of a program that reads through a cache. -/
def run (denied : κ → ε) (replies : κ → Except δ (List (κ × Option ν))) :
    StoreM κ ν ε α → Dict κ (Option ν) → Except ε α
  | .done a, _ => .ok a
  | .raise e, _ => .error e
  | .read k next, cache =>
      match read denied cache k (replies k) with
      | (cache, .ok o) => run denied replies (next o) cache
      | (_, .error e) => .error e

/-- A program that reads only what it may cannot tell the cache from the store. -/
theorem Valid.run_eq (h : Valid store readable cache)
    {replies : κ → Except δ (List (κ × Option ν))}
    (hanswers : ∀ k, Answers store readable [k] (replies k)) (denied : κ → ε)
    {m : StoreM κ ν ε α} (hreads : m.ReadsWithin store readable) :
    run denied replies m cache = m.run store := by
  classical
  induction m generalizing cache with
  | done a => rfl
  | raise e => rfl
  | read k next ih =>
      obtain ⟨hreadable, hrest⟩ := List.forall_mem_cons.mp hreads
      have hread := h.read_eq (fun _ => hanswers k) denied
      rw [if_pos hreadable] at hread
      have hpair : read denied cache k (replies k) =
          ((read denied cache k (replies k)).1, .ok (store k)) := Prod.ext rfl hread
      rw [run, hpair]
      exact ih (store k) (h.read_valid (fun _ => hanswers k) denied) hrest

end ReadCache

end Remme.Lib
