import CryoDaq.Reports.Coordinator

/-!
# The sweep of the report coordinator

A round takes what became a priority first and keeps one slot for the name after the
cursor, so in a directory that stays as it is every eligible experiment is chosen in a
bounded number of rounds (`no_experiment_starves`).

**Distance.**  `distance` counts the slots from the cursor to an experiment; a round that
does not choose the experiment brings the cursor closer.
-/

namespace CryoDaq
namespace Reports

/-! ## What is chosen -/

/-- A batch of experiments that are eligible, each once. -/
structure Chosen (eligible : String → Bool) (limit : ℕ) (batch : List String) : Prop where
  bounded : batch.length ≤ limit
  distinct : batch.Nodup
  eligible : ∀ id ∈ batch, eligible id = true

section Sweep

variable {eligible : String → Bool} {limit limit' : ℕ} {batch : List String}

theorem mem_join (eligible : String → Bool) (batch : List String) (id other : String) :
    other ∈ join eligible batch id ↔ other ∈ batch ∨ other = id ∧ eligible other = true := by
  unfold join
  split
  · rename_i h
    rw [List.mem_append, List.mem_singleton]
    constructor
    · rintro (hold | rfl)
      · exact .inl hold
      · exact .inr ⟨rfl, h.1⟩
    · rintro (hold | ⟨rfl, -⟩)
      · exact .inl hold
      · exact .inr rfl
  · rename_i h
    refine ⟨.inl, ?_⟩
    rintro (hold | ⟨rfl, heligible⟩)
    · exact hold
    · by_contra hnew
      exact h ⟨heligible, hnew⟩

theorem Chosen.join (h : Chosen eligible limit batch) (id : String) :
    Chosen eligible (limit + 1) (Reports.join eligible batch id) := by
  refine ⟨?_, ?_, fun other hother => ?_⟩
  · unfold Reports.join
    split
    · simpa using h.bounded
    · exact h.bounded.trans (Nat.le_succ _)
  · unfold Reports.join
    split
    · rename_i hnew
      exact List.nodup_append_comm.mp (List.nodup_cons.mpr ⟨hnew.2, h.distinct⟩)
    · exact h.distinct
  · rcases (mem_join eligible batch id other).mp hother with hold | ⟨-, heligible⟩
    · exact h.eligible other hold
    · exact heligible

theorem Chosen.mono (h : Chosen eligible limit batch) (hle : limit ≤ limit') :
    Chosen eligible limit' batch :=
  ⟨h.bounded.trans hle, h.distinct, h.eligible⟩

theorem Chosen.drain {queue : List String} (h : Chosen eligible limit batch) :
    Chosen eligible limit (Reports.drain eligible limit batch queue).1 := by
  induction queue generalizing batch with
  | nil => exact h
  | cons id rest ih =>
      unfold Reports.drain
      split
      · rename_i hroom
        exact ih ((Chosen.join ⟨le_rfl, h.distinct, h.eligible⟩ id).mono hroom)
      · exact h

theorem Chosen.sweep (h : Chosen eligible limit batch) (slots : List String) :
    Chosen eligible (limit + slots.length) (slots.foldl (Reports.join eligible) batch) := by
  induction slots generalizing batch limit with
  | nil => exact h
  | cons id rest ih =>
      have hrest := ih (h.join id)
      rwa [Nat.add_right_comm] at hrest

theorem mem_sweep {slots : List String} (other : String) :
    other ∈ slots.foldl (join eligible) batch ↔
      other ∈ batch ∨ other ∈ slots ∧ eligible other = true := by
  induction slots generalizing batch with
  | nil => simp
  | cons id rest ih =>
      rw [List.foldl_cons, ih, mem_join, List.mem_cons]
      tauto

end Sweep

section Cursor

variable {names : List String}

def slot (names : List String) (cursor : Option String) : ℕ :=
  let start := names.countP fun name => cursor.any (name ≤ ·)
  if names.length ≤ start then 0 else start

theorem slot_lt (hnames : names ≠ []) (cursor : Option String) :
    slot names cursor < names.length := by
  have hpos := List.length_pos_of_ne_nil hnames
  unfold slot
  dsimp only
  split <;> omega

theorem countP_le_getElem (hsorted : names.Pairwise (· < ·)) {i : ℕ} (hi : i < names.length) :
    (names.countP fun name => decide (name ≤ names[i])) = i + 1 := by
  rw [List.pairwise_iff_getElem] at hsorted
  have hbefore : ∀ name ∈ names.take (i + 1), decide (name ≤ names[i]) = true := by
    intro name hname
    obtain ⟨j, hj, rfl⟩ := List.mem_take_iff_getElem.mp hname
    rw [decide_eq_true_iff]
    rcases Nat.lt_or_ge j i with hlt | hge
    · exact (hsorted j i (by omega) hi hlt).le
    · obtain rfl : j = i := by omega
      exact le_rfl
  have hafter : ∀ name ∈ names.drop (i + 1), ¬decide (name ≤ names[i]) = true := by
    intro name hname
    obtain ⟨j, hj, rfl⟩ := List.mem_drop_iff_getElem.mp hname
    simpa using hsorted i (i + 1 + j) hi (by omega) (by omega)
  calc (names.countP fun name => decide (name ≤ names[i]))
      = ((names.take (i + 1) ++ names.drop (i + 1)).countP fun name =>
          decide (name ≤ names[i])) := by rw [List.take_append_drop]
    _ = (names.take (i + 1)).length + 0 := by
        rw [List.countP_append, List.countP_eq_length.mpr hbefore, List.countP_eq_zero.mpr hafter]
    _ = i + 1 := by
        rw [List.length_take]
        omega

theorem slot_nextCursor (hsorted : names.Pairwise (· < ·)) (hnames : names ≠ [])
    (cursor : Option String) {k : ℕ} (hk : 1 ≤ k) :
    slot names (nextCursor names (visited names cursor k) cursor) =
      if names.length ≤ slot names cursor + k then 0 else slot names cursor + k := by
  have hslot := slot_lt hnames cursor
  have hvisited : visited names cursor k = (names.drop (slot names cursor)).take k := rfl
  have hlast : (visited names cursor k).getLast? =
      names[slot names cursor + (min k (names.length - slot names cursor) - 1)]? := by
    rw [hvisited, List.getLast?_eq_getElem?, List.length_take, List.length_drop,
      List.getElem?_take_of_lt (by omega), List.getElem?_drop]
  set p := slot names cursor with hp
  unfold nextCursor
  split_ifs with hend
  · rw [hlast, List.getElem?_eq_getElem (by omega)]
    dsimp only
    rw [if_pos]
    · simp [slot]
    · rw [List.getLast?_eq_getElem?, List.getElem?_eq_getElem (by omega)]
      congr 2
      omega
  · have hmin : p + (min k (names.length - p) - 1) = p + k - 1 := by omega
    rw [hlast, hmin, List.getElem?_eq_getElem (by omega)]
    dsimp only
    rw [if_neg]
    · have hcount := countP_le_getElem hsorted (i := p + k - 1) (by omega)
      unfold slot
      simp only [Option.any_some, hcount]
      rw [if_neg (by omega)]
      omega
    · rw [List.getLast?_eq_getElem?, List.getElem?_eq_getElem (by omega), Option.some_inj]
      exact ne_of_gt (List.pairwise_iff_getElem.mp hsorted _ _ _ _ (by omega))

end Cursor

/-- The batches of some rounds; before each the priority identifiers are arbitrary. -/
def batches (parse : String → Option Timestamp) (r : Round) (c : Coordinator) :
    List (List String) → List (List String)
  | [] => []
  | queue :: rest =>
      let chosen := nextBatch parse r { c with priorityIds := queue }
      chosen.1 :: batches parse r chosen.2 rest

theorem nextBatch_known (parse : String → Option Timestamp) {r : Round} {activeId : Option String}
    (hactive : r.active = .ok activeId) (c : Coordinator) :
    nextBatch parse r c = chooseBatch parse r c activeId := by
  unfold nextBatch
  rw [hactive]

/-- One round: the eligible names of its slots are chosen, and the cursor moves past them. -/
theorem chooseBatch_spec (parse : String → Option Timestamp) (r : Round) (c : Coordinator)
    (activeId : Option String) (hnames : r.names ≠ []) (hbatch : 1 ≤ c.batchSize) :
    Chosen (eligibleRoot parse r activeId) c.batchSize (chooseBatch parse r c activeId).1 ∧
    (chooseBatch parse r c activeId).2.batchSize = c.batchSize ∧
    ∃ k, 1 ≤ k ∧
      (chooseBatch parse r c activeId).2.cursor =
        nextCursor r.names (visited r.names c.cursor k) c.cursor ∧
      ∀ id ∈ visited r.names c.cursor k, eligibleRoot parse r activeId id = true →
        id ∈ (chooseBatch parse r c activeId).1 := by
  have hdrained : Chosen (eligibleRoot parse r activeId) (c.batchSize - 1)
      (drain (eligibleRoot parse r activeId) (c.batchSize - 1) [] c.priorityIds).1 :=
    Chosen.drain ⟨Nat.zero_le _, List.nodup_nil, by simp⟩
  have hroom := hdrained.bounded
  unfold chooseBatch
  rw [if_neg hnames]
  dsimp only
  generalize drain (eligibleRoot parse r activeId) (c.batchSize - 1) [] c.priorityIds = drained at *
  have hslots : (visited r.names c.cursor (max 1 (c.batchSize - drained.1.length))).length ≤
      c.batchSize - drained.1.length := by
    refine (List.length_take_le _ _).trans ?_
    omega
  have hswept : Chosen (eligibleRoot parse r activeId) drained.1.length drained.1 :=
    ⟨le_rfl, hdrained.distinct, hdrained.eligible⟩
  have hchosen : Chosen (eligibleRoot parse r activeId) c.batchSize _ :=
    (hswept.sweep (visited r.names c.cursor (max 1 (c.batchSize - drained.1.length)))).mono
      (by omega)
  rw [List.take_of_length_le hchosen.bounded]
  exact ⟨hchosen, rfl, _, le_max_left _ _, rfl, fun id hid heligible =>
    (mem_sweep id).mpr (.inr ⟨hid, heligible⟩)⟩

/-- How many rounds at most pass before a slot is visited. -/
def distance (length slot i : ℕ) : ℕ := if slot ≤ i then i - slot else length - slot + i

theorem swept (parse : String → Option Timestamp) {r : Round} {activeId : Option String}
    (hsorted : r.names.Pairwise (· < ·)) (hactive : r.active = .ok activeId)
    {i : ℕ} (hi : i < r.names.length)
    (heligible : eligibleRoot parse r activeId r.names[i] = true) {c : Coordinator}
    (hbatch : 1 ≤ c.batchSize) {queues : List (List String)}
    (hrounds : distance r.names.length (slot r.names c.cursor) i < queues.length) :
    ∃ batch ∈ batches parse r c queues, r.names[i] ∈ batch := by
  have hnames : r.names ≠ [] := List.ne_nil_of_length_pos (by omega)
  induction queues generalizing c with
  | nil => exact absurd hrounds (Nat.not_lt_zero _)
  | cons queue rest ih =>
      obtain ⟨-, hsize, k, hk, hcursor, hpicked⟩ :=
        chooseBatch_spec parse r { c with priorityIds := queue } activeId hnames hbatch
      have hnext := nextBatch_known parse hactive { c with priorityIds := queue }
      have hslot := slot_lt hnames c.cursor
      by_cases hhere : slot r.names c.cursor ≤ i ∧ i < slot r.names c.cursor + k
      · refine ⟨_, List.mem_cons_self, ?_⟩
        rw [hnext]
        refine hpicked _ ?_ heligible
        have hvisited : visited r.names c.cursor k =
            (r.names.drop (slot r.names c.cursor)).take k := rfl
        rw [hvisited, List.mem_take_iff_getElem]
        refine ⟨i - slot r.names c.cursor, by rw [List.length_drop]; omega, ?_⟩
        rw [List.getElem_drop]
        congr 1
        omega
      · have hcloser : distance r.names.length
            (slot r.names (nextBatch parse r { c with priorityIds := queue }).2.cursor) i <
              rest.length := by
          rw [hnext, hcursor, slot_nextCursor hsorted hnames c.cursor hk]
          rw [List.length_cons] at hrounds
          unfold distance at hrounds ⊢
          split_ifs at hrounds ⊢ <;> omega
        obtain ⟨batch, hmem, hin⟩ := ih (by rw [hnext, hsize]; exact hbatch) hcloser
        exact ⟨batch, List.mem_cons_of_mem _ hmem, hin⟩

theorem batches_chosen (parse : String → Option Timestamp) {r : Round} {activeId : Option String}
    (hactive : r.active = .ok activeId) {c : Coordinator} (hbatch : 1 ≤ c.batchSize)
    (queues : List (List String)) :
    ∀ batch ∈ batches parse r c queues,
      Chosen (eligibleRoot parse r activeId) c.batchSize batch := by
  induction queues generalizing c with
  | nil => exact fun batch h => absurd h List.not_mem_nil
  | cons queue rest ih =>
      have hnext := nextBatch_known parse hactive { c with priorityIds := queue }
      have hround : Chosen (eligibleRoot parse r activeId) c.batchSize
            (chooseBatch parse r { c with priorityIds := queue } activeId).1 ∧
          (chooseBatch parse r { c with priorityIds := queue } activeId).2.batchSize =
            c.batchSize := by
        by_cases hnames : r.names = []
        · unfold chooseBatch
          rw [if_pos hnames]
          exact ⟨⟨Nat.zero_le _, List.nodup_nil, by simp⟩, rfl⟩
        · obtain ⟨hchosen, hsize, -⟩ :=
            chooseBatch_spec parse r { c with priorityIds := queue } activeId hnames hbatch
          exact ⟨hchosen, hsize⟩
      intro batch hmem
      unfold batches at hmem
      rw [hnext] at hmem
      rcases List.mem_cons.mp hmem with rfl | hlater
      · exact hround.1
      · have hlater' := ih (by rw [hround.2]; exact hbatch) batch hlater
        rwa [hround.2] at hlater'

/-- No experiment starves: whatever the cursor is and whatever becomes a priority between rounds,
as many rounds as there are experiments choose every eligible one, and no batch has more than its
size, one experiment twice or one that is not eligible. -/
theorem no_experiment_starves (parse : String → Option Timestamp) {r : Round}
    {activeId : Option String} (hsorted : r.names.Pairwise (· < ·))
    (hactive : r.active = .ok activeId) {c : Coordinator} (hbatch : 1 ≤ c.batchSize)
    {queues : List (List String)} (hrounds : r.names.length ≤ queues.length) :
    (∀ batch ∈ batches parse r c queues,
      Chosen (eligibleRoot parse r activeId) c.batchSize batch) ∧
    ∀ id ∈ r.names, eligibleRoot parse r activeId id = true →
      ∃ batch ∈ batches parse r c queues, id ∈ batch := by
  refine ⟨batches_chosen parse hactive hbatch queues, fun id hid heligible => ?_⟩
  obtain ⟨i, hi, rfl⟩ := List.getElem_of_mem hid
  have hslot := slot_lt (List.ne_nil_of_mem hid) c.cursor
  refine swept parse hsorted hactive hi heligible hbatch (lt_of_lt_of_le ?_ hrounds)
  unfold distance
  split <;> omega

/-- A directory of two experiments, of which the second one asks for a report. -/
def benchRound : Round where
  active := .ok none
  names := ["a", "b"]
  metadata := fun id =>
    if id = "b" then
      some ⟨2048, [(.text "experiment", .dict
        [(.text "experiment_id", .str "b"), (.text "status", .str "COMPLETED"),
          (.text "end_time", .str "1970-01-01T00:00:00.000009+00:00"),
          (.text "report_enabled", .bool true), (.text "retroactive", .bool false)])]⟩
    else none

theorem no_experiment_starves_second :
    ∃ batch ∈ batches ninthReaders.parse benchRound ⟨[], none, 1⟩ [["a"], ["a"]], "b" ∈ batch :=
  (no_experiment_starves ninthReaders.parse (r := benchRound) (c := ⟨[], none, 1⟩) (by decide) rfl
    (by decide) (by decide)).2 "b" (by decide) (by decide)

end Reports
end CryoDaq
