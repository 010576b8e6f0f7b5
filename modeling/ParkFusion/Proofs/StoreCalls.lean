import ParkFusion.Proofs.GovernorSteps

namespace ParkFusion.Quota

namespace Counter

variable {n m : Nat} {cs : List Char} {text : String}

theorem appendDigits_eq_ok_iff (hn : n < UInt64.size) : appendDigits n cs = .ok m ↔
    (∀ c ∈ cs, c.isDigit) ∧ Nat.ofDigitChars 10 cs n = m ∧ m < UInt64.size := by
  constructor
  · intro h
    induction cs generalizing n with
    | nil =>
      cases h
      exact ⟨by simp, rfl, hn⟩
    | cons c cs ih =>
      rw [appendDigits] at h
      unfold Decimal.digit? at h
      by_cases hc : c.isDigit
      · rw [if_pos hc] at h
        dsimp only at h
        split at h
        · rename_i hlt
          obtain ⟨hcs, hm⟩ := ih hlt h
          exact ⟨by simpa [hc] using hcs, hm⟩
        · cases h
      · rw [if_neg hc] at h
        cases h
  · rintro ⟨hcs, rfl, hm⟩
    exact appendDigits_eq hcs hm

/-- Decimal digits that are the number, after a plus sign or alone. -/
def Denotes (text : String) (n : Nat) : Prop :=
  ∃ digits, (text.toList = digits ∨ text.toList = '+' :: digits) ∧ digits ≠ [] ∧
    (∀ c ∈ digits, c.isDigit) ∧ Nat.ofDigitChars 10 digits 0 = n

theorem denotes_plus (h : text.toList = '+' :: cs) : Denotes text n ↔
    cs ≠ [] ∧ (∀ c ∈ cs, c.isDigit) ∧ Nat.ofDigitChars 10 cs 0 = n := by
  constructor
  · rintro ⟨digits, hd | hd, hne, hdigits, hn⟩
    · have hplus : '+'.isDigit := hdigits '+' (by rw [← hd, h]; exact List.mem_cons_self)
      exact absurd hplus (by decide)
    · obtain rfl : cs = digits := by simpa using h.symm.trans hd
      exact ⟨hne, hdigits, hn⟩
  · intro hcs
    exact ⟨cs, Or.inr h, hcs⟩

theorem denotes_plain (h : ∀ cs, text.toList ≠ '+' :: cs) : Denotes text n ↔
    text.toList ≠ [] ∧ (∀ c ∈ text.toList, c.isDigit) ∧ Nat.ofDigitChars 10 text.toList 0 = n := by
  constructor
  · rintro ⟨digits, hd | hd, hdigits⟩
    · exact hd ▸ hdigits
    · exact absurd hd (h digits)
  · intro hdigits
    exact ⟨text.toList, Or.inl rfl, hdigits⟩

theorem read_eq_ok_iff : read text = .ok n ↔ Denotes text n ∧ n < UInt64.size := by
  have hzero : 0 < UInt64.size := by decide
  unfold read
  split
  · rename_i hnil
    rw [denotes_plain (by simp [hnil])]
    simp [hnil]
  · rename_i hplus
    rw [denotes_plus hplus]
    simp
  · rename_i cs hne hplus
    rw [denotes_plus hplus, appendDigits_eq_ok_iff hzero]
    have hcs : cs ≠ [] := hne
    grind
  · rename_i hnil _ hplus
    rw [denotes_plain hplus, appendDigits_eq_ok_iff hzero]
    have hcs : text.toList ≠ [] := hnil
    grind

end Counter

/-- What callers ask of the store that they share. -/
inductive Operation
  | get (key : String)
  | set (key value : String) (lifetime : Nat)
  | setIfAbsent (key value : String) (lifetime : Nat)
  | ttl (key : String)
  | increment (key : String) (lifetime : Nat)
  deriving DecidableEq, Repr

inductive Answer
  | value (value : Option String)
  | done
  | wasAbsent (absent : Bool)
  | left (left : Option Nat)
  | count (count : Except Failure Nat)

namespace Operation

def key : Operation → String
  | get key | set key _ _ | setIfAbsent key _ _ | ttl key | increment key _ => key

/-- What is answered when `found` is the entry that exists under the key. -/
def answer (now : Nat) (found : Option Entry) : Operation → Answer
  | get _ => .value (found.map (·.value))
  | set _ _ _ => .done
  | setIfAbsent _ _ _ => .wasAbsent found.isNone
  | ttl _ => .left (found.map (·.expiry - now))
  | increment key _ =>
    match found with
    | none => .count (.ok 1)
    | some e =>
      match Counter.read e.value with
      | .ok n => .count (.ok (Counter.next n))
      | .error fault => .count (.error (.sharedState ("counter " ++ key ++ ": " ++ fault.message)))

/-- What is written under the key then. -/
def write? (now : Nat) (found : Option Entry) : Operation → Option Entry
  | get _ | ttl _ => none
  | set _ value lifetime => some ⟨value, now + lifetime⟩
  | setIfAbsent _ value lifetime =>
    match found with
    | none => some ⟨value, now + lifetime⟩
    | some _ => none
  | increment _ lifetime =>
    match found with
    | none => some ⟨"1", now + lifetime⟩
    | some e =>
      match Counter.read e.value with
      | .ok n => some ⟨(Counter.next n).repr, e.expiry⟩
      | .error _ => none

end Operation

/-- A store whose calls answer from the entry that exists under their key, and change that entry only.
The entry that exists at a time is given by `found`. -/
structure Lawful {σ : Type} (found : σ → Nat → String → Option Entry)
    (perform : σ → Nat → Operation → Answer × σ) : Prop where
  answer : ∀ x now op, (perform x now op).1 = op.answer now (found x now op.key)
  written : ∀ x now op e t, now ≤ t → op.write? now (found x now op.key) = some e →
    found (perform x now op).2 t op.key = (some e).filter (Store.isLive t)
  unwritten : ∀ x now op t, now ≤ t → op.write? now (found x now op.key) = none →
    found (perform x now op).2 t op.key = found x t op.key
  other : ∀ x now op t key, now ≤ t → key ≠ op.key →
    found (perform x now op).2 t key = found x t key

namespace Store

variable {s : Store} {now t : Nat} {key key' : String} {e : Entry}

def perform (s : Store) (now : Nat) : Operation → Answer × Store
  | .get key => (.value (s.get now key).1, (s.get now key).2)
  | .set key value lifetime => (.done, s.set now key value lifetime)
  | .setIfAbsent key value lifetime =>
    (.wasAbsent (s.setIfAbsent now key value lifetime).1,
      (s.setIfAbsent now key value lifetime).2)
  | .ttl key => (.left (s.ttl now key), s)
  | .increment key lifetime =>
    match s.increment now key lifetime with
    | .ok (count, s) => (.count (.ok count), s)
    | .error failure => (.count (.error failure), s)

theorem live?_insert (s : Store) (t : Nat) (key key' : String) (e : Entry) :
    (s.insert key e).live? t key' =
      if key' = key then (some e).filter (isLive t) else s.live? t key' := by
  rw [live?, lookup_insert]
  split
  · rfl
  · rfl

theorem live?_eq_none_of_le (h : s.live? now key = none) (ht : now ≤ t) :
    s.live? t key = none :=
  live?_eq_none_iff.mpr fun e he ↦ (live?_eq_none_iff.mp h e he).trans ht

theorem lookup_erase_self (s : Store) (key : String) : (s.erase key).entries.lookup key = none := by
  rw [List.lookup_eq_none_iff]
  intro entry hentry
  have hne : entry.1 ≠ key := by simpa using (List.mem_filter.mp hentry).2
  simpa using hne.symm

theorem live?_erase (h : s.live? now key = none) (ht : now ≤ t) (key' : String) :
    (s.erase key).live? t key' = s.live? t key' := by
  by_cases hk : key' = key
  · rw [hk, live?_eq_none_of_le h ht, live?, lookup_erase_self]
    rfl
  · rw [live?, lookup_erase s hk, live?]

/-- A call writes one entry, or erases one that is not live, or does nothing. -/
theorem perform_cases (s : Store) (now : Nat) (op : Operation) :
    (s.perform now op).1 = op.answer now (s.live? now op.key) ∧
      ((∃ e, op.write? now (s.live? now op.key) = some e ∧
        (s.perform now op).2 = s.insert op.key e) ∨
      op.write? now (s.live? now op.key) = none ∧ ((s.perform now op).2 = s ∨
        s.live? now op.key = none ∧ (s.perform now op).2 = s.erase op.key)) := by
  cases op with
  | get key =>
    refine ⟨?_, Or.inr ⟨rfl, ?_⟩⟩ <;>
    cases hl : s.live? now key <;> simp [perform, get, hl, Operation.answer, Operation.key]
  | set key value lifetime => exact ⟨rfl, Or.inl ⟨_, rfl, rfl⟩⟩
  | setIfAbsent key value lifetime =>
    cases hl : s.live? now key <;>
      simp [perform, setIfAbsent, hl, Operation.answer, Operation.write?, Operation.key, set]
  | ttl key => exact ⟨rfl, Or.inr ⟨rfl, Or.inl rfl⟩⟩
  | increment key lifetime =>
    cases hl : s.live? now key with
    | none => simp [perform, increment, hl, Operation.answer, Operation.write?, Operation.key, set]
    | some e =>
      cases hr : Counter.read e.value <;>
        simp [perform, increment, hl, hr, Operation.answer, Operation.write?, Operation.key]

theorem lawful : Lawful live? perform where
  answer s now op := (s.perform_cases now op).1
  written s now op e t ht he := by
    obtain ⟨-, ⟨e', he', hs⟩ | ⟨hn, -⟩⟩ := s.perform_cases now op
    · obtain rfl := Option.some.inj (he.symm.trans he')
      rw [hs, live?_insert, if_pos rfl]
    · rw [he] at hn
      cases hn
  unwritten s now op t ht hn := by
    obtain ⟨-, ⟨e, he, -⟩ | ⟨-, hs | ⟨hl, hs⟩⟩⟩ := s.perform_cases now op
    · rw [he] at hn
      cases hn
    · rw [hs]
    · rw [hs, live?_erase hl ht]
  other s now op t key ht hk := by
    obtain ⟨-, ⟨e, -, hs⟩ | ⟨-, hs | ⟨hl, hs⟩⟩⟩ := s.perform_cases now op
    · rw [hs, live?_insert, if_neg hk]
    · rw [hs]
    · rw [hs, live?_erase hl ht]

end Store

end ParkFusion.Quota
