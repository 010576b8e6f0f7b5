import ParkFusion.Proofs.Entries
import ParkFusion.Proofs.WholeDoubles
import ParkFusion.Provider.ThemeParksWiki

namespace ParkFusion

namespace QueueType

variable {word : String} {type : QueueType}

theorem all_position (type : QueueType) : all[type.position]? = some type := by
  cases type <;> rfl

theorem mem_all (type : QueueType) : type ∈ all :=
  List.mem_of_getElem? (all_position type)

theorem all_ascending : all.Pairwise (·.position < ·.position) := by
  decide

theorem position_injective : Function.Injective position := by
  intro a b h
  have hget : some a = some b := by rw [← all_position a, ← all_position b, h]
  exact Option.some.inj hget

theorem lookup_words : words.lookup word = some type ↔ type.toWord = word := by
  constructor
  · intro h
    obtain ⟨_, -, hentry⟩ := List.mem_map.mp (Entries.mem_of_lookup h)
    cases hentry
    rfl
  · rintro rfl
    exact Entries.lookup_of_mem (by decide) (List.mem_map_of_mem (mem_all type))

end QueueType

namespace Document

variable {α : Type} {item : Document → Option α} {d : Document}

theorem map?_keys_nodup {entries : List (String × α)} (h : map? item d = some entries) :
    (entries.map (·.1)).Nodup := by
  cases d with
  | table all =>
    obtain ⟨read, -, hkept⟩ := Option.bind_eq_some_iff.mp h
    obtain rfl := Option.some.inj hkept
    exact Entries.keepLast_keys_nodup read
  | _ => cases h

theorem Record.exists_of_optional {r : Record} {name : String} {a : α}
    (h : r.optional name item = some (some a)) : ∃ d, item d = some a := by
  unfold optional at h
  split at h
  · rename_i d _
    cases d with
    | null => cases h
    | _ =>
      obtain ⟨a', ha, hsome⟩ := Option.map_eq_some_iff.mp h
      exact ⟨_, Option.some.inj hsome ▸ ha⟩
  · split at h
    · cases h
    · cases h

end Document

namespace ThemeParksWiki

/-- The words for the types of queues, in the order in which an entity lists its queues. -/
def queueWords : List String :=
  ["STANDBY", "SINGLE_RIDER", "RETURN_TIME", "PAID_RETURN_TIME", "BOARDING_GROUP"]

def LiveItem.queueMap (item : LiveItem) : List (String × QueueEntry) :=
  item.queue.getD []

/-- An item that was read has every word at most once. -/
theorem LiveItem.ofDocument?_words_nodup {d : Document} {item : LiveItem}
    (h : ofDocument? d = some item) : (item.queueMap.map (·.1)).Nodup := by
  simp only [ofDocument?, Option.bind_eq_bind, Option.bind_eq_some_iff, Option.pure_def,
    Option.some.injEq] at h
  obtain ⟨r, -, _, -, _, -, _, -, _, -, _, -, queue, hqueue, _, -, _, -, rfl⟩ := h
  cases queue with
  | none => exact List.nodup_nil
  | some entries =>
    obtain ⟨table, htable⟩ := Document.Record.exists_of_optional hqueue
    exact Document.map?_keys_nodup htable

section Minutes

variable {wait : Float}

/-- A whole number of minutes is that wait. -/
theorem minutes?_toFloat (k : UInt32) : minutes? (some k.toFloat) = some k := by
  have hkept : (k.toFloat.isFinite && decide (0 ≤ k.toFloat)) = true :=
    Bool.and_eq_true_iff.mpr ⟨Double.isFinite_toFloat k, decide_eq_true (Double.toFloat_nonneg k)⟩
  rw [minutes?, Option.filter_some, hkept]
  exact congrArg some (Double.roundFloatToStep_toFloat k)

theorem minutes?_of_neg (h : wait < 0) : minutes? (some wait) = none := by
  have hdropped : (wait.isFinite && decide (0 ≤ wait)) = false := by
    rw [decide_eq_false (Double.not_nonneg_of_neg h), Bool.and_false]
  rw [minutes?, Option.filter_some, hdropped]
  rfl

theorem minutes?_of_not_finite (h : wait.isFinite = false) : minutes? (some wait) = none := by
  rw [minutes?, Option.filter_some, h]
  rfl

end Minutes

/-- An entity has one queue for each known word of a map, in the order of the words, and its wait is
that under the word for standby. -/
structure ListsQueues (entries : List (String × QueueEntry)) (e : LiveEntity) : Prop where
  words : e.queues.map (·.queueType.toWord) = queueWords.filter (· ∈ entries.map (·.1))
  ascending : e.queues.Pairwise (·.queueType.position < ·.queueType.position)
  converted : ∀ q ∈ e.queues, ∃ entry, (q.queueType.toWord, entry) ∈ entries ∧
    toQueue q.queueType entry = q
  standby : ∀ entry, ("STANDBY", entry) ∈ entries → e.waitTime = minutes? entry.waitTime
  noStandby : "STANDBY" ∉ entries.map (·.1) → e.waitTime = none

/-- The queue of an entry, if the word is known. -/
def queueOf? (entry : String × QueueEntry) : Option Queue :=
  (QueueType.words.lookup entry.1).map (toQueue · entry.2)

section Queues

variable {entries entries' : List (String × QueueEntry)} {q : Queue} {item : LiveItem}

theorem queueOf?_eq_some_iff {word : String} {entry : QueueEntry} :
    queueOf? (word, entry) = some q ↔ q.queueType.toWord = word ∧ toQueue q.queueType entry = q := by
  rw [queueOf?, Option.map_eq_some_iff]
  constructor
  · rintro ⟨type, htype, rfl⟩
    exact ⟨QueueType.lookup_words.mp htype, rfl⟩
  · rintro ⟨hword, hq⟩
    exact ⟨q.queueType, QueueType.lookup_words.mpr hword, hq⟩

theorem queuesOf_perm (entries : List (String × QueueEntry)) :
    (queuesOf entries).Perm (entries.filterMap queueOf?) :=
  List.mergeSort_perm _ _

theorem mem_queuesOf : q ∈ queuesOf entries ↔
    ∃ entry, (q.queueType.toWord, entry) ∈ entries ∧ toQueue q.queueType entry = q := by
  rw [(queuesOf_perm entries).mem_iff, List.mem_filterMap]
  constructor
  · rintro ⟨⟨word, entry⟩, hmem, hq⟩
    obtain ⟨rfl, hentry⟩ := queueOf?_eq_some_iff.mp hq
    exact ⟨entry, hmem, hentry⟩
  · rintro ⟨entry, hmem, hq⟩
    exact ⟨_, hmem, queueOf?_eq_some_iff.mpr ⟨rfl, hq⟩⟩

theorem queuesOf_ascending (h : (entries.map (·.1)).Nodup) :
    (queuesOf entries).Pairwise (·.queueType.position < ·.queueType.position) := by
  -- entries under different words are queues of different types
  have hne : (entries.filterMap queueOf?).Pairwise
      (·.queueType.position ≠ ·.queueType.position) := by
    refine (List.pairwise_map.mp h).filterMap _ fun entry entry' hwords q hq q' hq' hposition ↦ ?_
    have htype := QueueType.position_injective hposition
    refine hwords ?_
    rw [← (queueOf?_eq_some_iff.mp hq).1, ← (queueOf?_eq_some_iff.mp hq').1, htype]
  have hpositions : ((entries.filterMap queueOf?).map (·.queueType.position)).Nodup :=
    List.pairwise_map.mpr hne
  exact mergeSort_ascends_strictly (fun _ _ ↦ decide_eq_true_iff) hpositions

theorem queuesOf_types (h : (entries.map (·.1)).Nodup) :
    (queuesOf entries).map (·.queueType) =
      QueueType.all.filter (·.toWord ∈ entries.map (·.1)) := by
  refine eq_of_ascending (List.pairwise_map.mpr (queuesOf_ascending h))
    (QueueType.all_ascending.filter _) fun type ↦ ?_
  rw [List.mem_map, List.mem_filter, decide_eq_true_iff, List.mem_map]
  constructor
  · rintro ⟨q, hq, rfl⟩
    obtain ⟨entry, hmem, -⟩ := mem_queuesOf.mp hq
    exact ⟨QueueType.mem_all _, _, hmem, rfl⟩
  · rintro ⟨-, ⟨word, entry⟩, hmem, rfl⟩
    exact ⟨toQueue type entry, mem_queuesOf.mpr ⟨entry, hmem, rfl⟩, rfl⟩

theorem queueWords_eq : queueWords = QueueType.all.map QueueType.toWord := rfl

theorem queuesOf_words (h : (entries.map (·.1)).Nodup) :
    (queuesOf entries).map (·.queueType.toWord) = queueWords.filter (· ∈ entries.map (·.1)) := by
  have hmap : (queuesOf entries).map (·.queueType.toWord) =
      ((queuesOf entries).map (·.queueType)).map QueueType.toWord := by rw [List.map_map]; rfl
  rw [hmap, queuesOf_types h, queueWords_eq, List.filter_map]
  rfl

/-- The queues depend on the known words alone. -/
theorem queuesOf_congr (h : (entries.map (·.1)).Nodup) (h' : (entries'.map (·.1)).Nodup)
    (hsame : ∀ word ∈ queueWords, ∀ entry, (word, entry) ∈ entries' ↔ (word, entry) ∈ entries) :
    queuesOf entries' = queuesOf entries := by
  refine eq_of_ascending (queuesOf_ascending h') (queuesOf_ascending h) fun q ↦ ?_
  have hword : q.queueType.toWord ∈ queueWords := by
    rw [queueWords_eq]
    exact List.mem_map_of_mem (QueueType.mem_all q.queueType)
  rw [mem_queuesOf, mem_queuesOf]
  exact exists_congr fun entry ↦ and_congr_left fun _ ↦ hsame _ hword entry

theorem standbyWait_of_mem (h : (entries.map (·.1)).Nodup) {entry : QueueEntry}
    (hmem : ("STANDBY", entry) ∈ entries) :
    standbyWait (queuesOf entries) = minutes? entry.waitTime := by
  have hq : toQueue .standby entry ∈ queuesOf entries := mem_queuesOf.mpr ⟨entry, hmem, rfl⟩
  cases hfind : (queuesOf entries).find? (·.queueType = .standby) with
  | none => exact absurd (decide_eq_true rfl) (List.find?_eq_none.mp hfind _ hq)
  | some q =>
    have htype : q.queueType = .standby := by simpa using List.find?_some hfind
    obtain ⟨entry', hmem', hentry'⟩ := mem_queuesOf.mp (List.mem_of_find?_eq_some hfind)
    rw [htype] at hmem' hentry'
    obtain rfl : entry' = entry := congrArg Prod.snd (List.inj_on_of_nodup_map h hmem' hmem rfl)
    rw [standbyWait, hfind, ← hentry']
    rfl

theorem standbyWait_of_not_mem (hnone : "STANDBY" ∉ entries.map (·.1)) :
    standbyWait (queuesOf entries) = none := by
  have hfind : (queuesOf entries).find? (·.queueType = .standby) = none := by
    refine List.find?_eq_none.mpr fun q hq ↦ ?_
    obtain ⟨entry, hmem, -⟩ := mem_queuesOf.mp hq
    intro htype
    rw [of_decide_eq_true htype] at hmem
    exact hnone (List.mem_map_of_mem hmem)
  rw [standbyWait, hfind]
  rfl

theorem listsQueues_of_eq {e : LiveEntity} (h : (entries.map (·.1)).Nodup)
    (hqueues : e.queues = queuesOf entries) (hwait : e.waitTime = standbyWait (queuesOf entries)) :
    ListsQueues entries e where
  words := hqueues ▸ queuesOf_words h
  ascending := hqueues ▸ queuesOf_ascending h
  converted _ hq := mem_queuesOf.mp (hqueues ▸ hq)
  standby _ hmem := hwait.trans (standbyWait_of_mem h hmem)
  noStandby hnone := hwait.trans (standbyWait_of_not_mem hnone)

theorem exists_toLive? {type : EntityType} (htype : entityType? item.entityType = some type) :
    ∃ e, item.toLive? = some e ∧ e.queues = queuesOf item.queueMap ∧
      e.waitTime = standbyWait (queuesOf item.queueMap) := by
  rw [LiveItem.toLive?, htype]
  exact ⟨_, rfl, rfl, rfl⟩

theorem toLive?_congr (h : queuesOf entries = queuesOf item.queueMap) :
    { item with queue := some entries }.toLive? = item.toLive? := by
  unfold LiveItem.toLive?
  dsimp only [Option.getD_some]
  rw [h]
  rfl

end Queues

/-- However the queues of an item are enumerated, and whatever stands under unknown words, the
entity is the same. -/
theorem toLive?_listsQueues (item : LiveItem) {type : EntityType}
    (htype : entityType? item.entityType = some type)
    (hwords : (item.queueMap.map (·.1)).Nodup) :
    ∃ e, item.toLive? = some e ∧ ListsQueues item.queueMap e ∧
      (∀ entries, entries.Perm item.queueMap →
        { item with queue := some entries }.toLive? = some e) ∧
      ∀ entries, (entries.map (·.1)).Nodup →
        (∀ word ∈ queueWords, ∀ entry, (word, entry) ∈ entries ↔ (word, entry) ∈ item.queueMap) →
        { item with queue := some entries }.toLive? = some e := by
  obtain ⟨e, hlive, hqueues, hwait⟩ := exists_toLive? htype
  refine ⟨e, hlive, listsQueues_of_eq hwords hqueues hwait, fun entries hperm ↦ ?_,
    fun entries hdistinct hsame ↦ ?_⟩
  · have hdistinct := (hperm.map (·.1)).nodup_iff.mpr hwords
    rw [toLive?_congr (queuesOf_congr hwords hdistinct fun _ _ _ ↦ hperm.mem_iff), hlive]
  · rw [toLive?_congr (queuesOf_congr hwords hdistinct hsame), hlive]

def taronQueues : List (String × QueueEntry) := [
  ("SINGLE_RIDER", ⟨some 10, none, none, none, none⟩),
  ("VIRTUAL_LINE", ⟨some 90, some "OPEN", none, none, none⟩),
  ("STANDBY", ⟨some 35, none, none, none, none⟩)]

def taronItem : LiveItem where
  id := "ride-1"
  name := "Taron"
  entityType := "ATTRACTION"
  status := some "OPERATING"
  lastUpdated := none
  queue := some taronQueues
  showtimes := none
  dining := none

theorem toLive?_listsQueues_taron :
    (entityType? taronItem.entityType = some .attraction ∧
      (taronItem.queueMap.map (·.1)).Nodup) ∧
    ∃ e, taronItem.toLive? = some e ∧
      e.queues.map (·.queueType.toWord) = ["STANDBY", "SINGLE_RIDER"] ∧
      e.waitTime = some 35 ∧
      { taronItem with queue := some taronQueues.reverse }.toLive? = some e := by
  have htype : entityType? taronItem.entityType = some .attraction := by decide
  have hwords : (taronItem.queueMap.map (·.1)).Nodup := by decide
  obtain ⟨e, hlive, hlists, henumerated, -⟩ := toLive?_listsQueues taronItem htype hwords
  have hstandby : ("STANDBY", ⟨some 35, none, none, none, none⟩) ∈ taronItem.queueMap := by
    simp [LiveItem.queueMap, taronItem, taronQueues]
  have hwait : e.waitTime = some 35 := (hlists.standby _ hstandby).trans (minutes?_toFloat 35)
  exact ⟨⟨htype, hwords⟩, e, hlive, hlists.words.trans (by decide), hwait,
    henumerated _ taronQueues.reverse_perm⟩

end ThemeParksWiki

end ParkFusion
