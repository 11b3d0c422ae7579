import CryoDaq.Periodic.AlarmQuery
import CryoDaq.Python.JsonSize
import Mathlib.Data.List.Dedup

/-!
# What a snapshot states

A snapshot that the alarm manager answers is made of entries that the closed schema represents;
`Stated` is what the report process asks of them, and the bytes that the token names are the bytes
that the report process computes from what it reads.
-/

namespace CryoDaq
namespace Periodic
namespace AlarmQuery

open Alarms
open Json (textBytes textBytes_nil textBytes_append textBytes_cons textBytes_of_ascii
  length_le_textBytes textBytes_commas textBytes_fieldText textBytes_stringText Plain
  textBytes_plain)

theorem ascending_iff {l : List String} : ascending l = true ↔ l.Pairwise (· < ·) := by
  induction l with
  | nil => simp [ascending]
  | cons a l ih =>
      cases l with
      | nil => simp [ascending]
      | cons b l =>
          rw [ascending, Bool.and_eq_true, ih, decide_eq_true_iff]
          constructor
          · rintro ⟨hab, hl⟩
            refine List.pairwise_cons.mpr ⟨fun c hc => ?_, hl⟩
            rcases List.mem_cons.mp hc with rfl | hc
            · exact hab
            · exact lt_trans hab (List.rel_of_pairwise_cons hl hc)
          · intro h
            exact ⟨List.rel_of_pairwise_cons h (List.mem_cons_self ..), h.of_cons⟩

theorem identifier_of_valid {s : String} (h : validSnapshotText s = true) :
    identifier s = true := by
  rw [validSnapshotText, Bool.and_eq_true, Bool.and_eq_true, Bool.and_eq_true] at h
  obtain ⟨⟨⟨hne, _⟩, hsize⟩, hchars⟩ := h
  rw [identifier, text, Bool.and_eq_true, Bool.and_eq_true]
  exact ⟨⟨hne, hsize⟩, hchars⟩

theorem sortedChannels_spec (channels : List String) :
    (sortedChannels channels).Pairwise (· < ·) ∧
      (∀ c ∈ sortedChannels channels, c ∈ channels) ∧
      (sortedChannels channels).length ≤ channels.length := by
  have hperm : (sortedChannels channels).Perm channels.dedup := List.perm_insertionSort _ _
  have hnodup : (sortedChannels channels).Nodup := hperm.nodup_iff.mpr (List.nodup_dedup channels)
  have hle : (sortedChannels channels).Pairwise (· ≤ ·) := List.pairwise_insertionSort _ _
  refine ⟨(hle.and hnodup).imp fun h => lt_of_le_of_ne h.1 h.2, fun c hc => ?_, ?_⟩
  · exact List.mem_dedup.mp (hperm.mem_iff.mp hc)
  · rw [hperm.length_eq]
    exact (List.dedup_sublist channels).length_le

/-- What the closed schema asks of an alarm. -/
structure Stated (p : String × SnapshotEntry) : Prop where
  alarmId : identifier p.1 = true
  level : p.2.level ∈ ["INFO", "WARNING", "CRITICAL"]
  triggeredAt : finiteNumber (.float p.2.triggeredAt) = true
  count : p.2.channels.length ≤ 64
  channels : ∀ c ∈ p.2.channels, identifier c = true
  ascending : p.2.channels.Pairwise (· < ·)
  acknowledged : p.2.acknowledged = true →
    ∃ x, p.2.acknowledgedAt = some x ∧ finiteNumber (.float x) = true
  unacknowledged : p.2.acknowledged = false → p.2.acknowledgedAt = none

theorem stated_of_entry {alarmId : String} {event : Event} {entry : SnapshotEntry}
    (h : snapshotEntry alarmId event = some entry) : Stated (alarmId, entry) := by
  rw [snapshotEntry] at h
  split at h
  case isFalse => cases h
  case isTrue hvalid =>
    cases h
    simp only [Bool.and_eq_true, decide_eq_true_eq, List.all_eq_true, Bool.or_eq_true,
      Bool.not_eq_true'] at hvalid
    obtain ⟨⟨⟨⟨⟨⟨hid, _⟩, hlevel⟩, htriggered⟩, hcount⟩, hchannels⟩, hacknowledged⟩ := hvalid
    obtain ⟨hsorted, hmem, hlength⟩ := sortedChannels_spec event.channels
    refine ⟨identifier_of_valid hid, hlevel, htriggered, hlength.trans hcount,
      fun c hc => identifier_of_valid (hchannels c (hmem c hc)), hsorted, fun hack => ?_,
      fun hack => ?_⟩
    · have hack : event.acknowledged = true := hack
      rcases hacknowledged with hnot | hvalid
      · exact absurd hnot (by rw [hack]; decide)
      · exact ⟨event.acknowledgedAt, if_pos hack, hvalid⟩
    · have hack : event.acknowledged = false := hack
      exact if_neg (by rw [hack]; decide)

variable {sha256 : ByteArray → String} {s : AlarmStateManager} {snapshot : AlarmCanonicalSnapshot}

structure Answered (sha256 : ByteArray → String) (snapshot : AlarmCanonicalSnapshot) : Prop where
  count : snapshot.active.length ≤ 128
  stated : ∀ p ∈ snapshot.active, Stated p
  ascending : (snapshot.active.map Prod.fst).Pairwise (· < ·)
  token : ∃ text, Json.dumps false (activeJson snapshot) = some text ∧
    (String.ofList text).toUTF8.size ≤ snapshotMaxCanonicalBytes ∧
    snapshot.stateToken = "sha256:" ++ sha256 (String.ofList text).toUTF8

theorem snapshotActive_spec {active : Dict String Event} {entries : List (String × SnapshotEntry)}
    (h : snapshotActive active = some entries) :
    List.Forall₂ (fun p q => q.1 = p.1 ∧ Stated q) (Json.sortFields active.entries) entries := by
  rw [snapshotActive] at h
  generalize Json.sortFields active.entries = l at h
  induction l generalizing entries with
  | nil =>
      cases h
      exact .nil
  | cons p rest ih =>
      rw [List.mapM_cons] at h
      obtain ⟨q, hq, h⟩ := Option.bind_eq_some_iff.mp h
      obtain ⟨qs, hqs, h⟩ := Option.bind_eq_some_iff.mp h
      obtain ⟨entry, hentry, rfl⟩ := Option.map_eq_some_iff.mp hq
      cases h
      exact .cons ⟨rfl, stated_of_entry hentry⟩ (ih hqs)

theorem map_fst_eq {l : List (String × Event)} {m : List (String × SnapshotEntry)}
    (h : List.Forall₂ (fun p q => q.1 = p.1 ∧ Stated q) l m) :
    m.map Prod.fst = l.map Prod.fst := by
  induction h with
  | nil => rfl
  | cons hpq _ ih => rw [List.map_cons, List.map_cons, hpq.1, ih]

theorem answered_of_snapshot (h : s.snapshotActiveCanonical sha256 = some snapshot) :
    Answered sha256 snapshot := by
  rw [AlarmStateManager.snapshotActiveCanonical] at h
  split at h
  case isTrue => cases h
  case isFalse hcount =>
    obtain ⟨entries, hentries, h⟩ := Option.bind_eq_some_iff.mp h
    obtain ⟨text, htext, h⟩ := Option.bind_eq_some_iff.mp h
    obtain ⟨_, hsize, h⟩ := Option.bind_eq_some_iff.mp h
    cases h
    have hspec := snapshotActive_spec hentries
    have hkeys : entries.map Prod.fst = (Json.sortFields s.active.entries).map Prod.fst :=
      map_fst_eq hspec
    have hnodup : (entries.map Prod.fst).Nodup := by
      rw [hkeys]
      exact Json.nodup_sortFields s.active.nodup
    have hsorted : (entries.map Prod.fst).Pairwise (· ≤ ·) := by
      rw [hkeys, List.pairwise_map]
      exact Json.pairwise_sortFields _
    refine ⟨?_, fun p hp => ?_, ?_, text, htext, ?_, rfl⟩
    · rw [← hspec.length_eq, (Json.perm_sortFields _).length_eq]
      exact not_lt.mp hcount
    · obtain ⟨i, hi, rfl⟩ := List.getElem_of_mem hp
      exact (List.forall₂_iff_get.mp hspec).2 i (by rw [hspec.length_eq]; exact hi) hi |>.2
    · exact (hsorted.and hnodup).imp fun h => lt_of_le_of_ne h.1 h.2
    · by_contra hlarge
      rw [guard, if_neg hlarge] at hsize
      cases hsize

/-! ## The values in order -/

/-- The fields of an alarm in the order of their keys. -/
def entryFields (e : SnapshotEntry) : List (String × Json) :=
  [("acknowledged", .bool e.acknowledged),
    ("acknowledged_at", e.acknowledgedAt.elim .null Json.float),
    ("channels", .arr (e.channels.map Json.str)), ("level", .str e.level),
    ("triggered_at", .float e.triggeredAt)]

def activeFields (snapshot : AlarmCanonicalSnapshot) : List (String × Json) :=
  snapshot.active.map fun p => (p.1, .obj (entryFields p.2))

theorem sorted_json (e : SnapshotEntry) : e.json.sorted = .obj (entryFields e) := by
  have hchannels : Json.sortedItems (e.channels.map Json.str) = e.channels.map Json.str := by
    rw [Json.sortedItems_eq_map, List.map_map]
    rfl
  have htime : (e.acknowledgedAt.elim Json.null Json.float).sorted =
      e.acknowledgedAt.elim .null Json.float := by
    cases e.acknowledgedAt with
    | none => rfl
    | some x => rfl
  simp [SnapshotEntry.json, Json.sorted, Json.sortedFields, hchannels, htime, Json.sortFields,
    entryFields]

theorem distinct_json (e : SnapshotEntry) : e.json.Distinct := by
  refine .obj (by simp) fun p hp => ?_
  simp only [List.mem_cons, List.not_mem_nil, or_false] at hp
  rcases hp with rfl | rfl | rfl | rfl | rfl
  · exact .str _
  · exact .float _
  · refine .arr fun v hv => ?_
    obtain ⟨c, _, rfl⟩ := List.mem_map.mp hv
    exact .str c
  · exact .bool _
  · cases e.acknowledgedAt with
    | none => exact .null
    | some x => exact .float x

theorem map_fst_active : (snapshot.active.map fun p => (p.1, p.2.json)).map Prod.fst =
    snapshot.active.map Prod.fst := by
  rw [List.map_map]
  rfl

theorem distinct_activeJson (h : Answered sha256 snapshot) : (activeJson snapshot).Distinct := by
  refine .obj ?_ fun p hp => ?_
  · rw [map_fst_active]
    exact h.ascending.imp fun hlt => ne_of_lt hlt
  · obtain ⟨q, _, rfl⟩ := List.mem_map.mp hp
    exact distinct_json q.2

theorem sorted_activeJson (h : Answered sha256 snapshot) :
    (activeJson snapshot).sorted = .obj (activeFields snapshot) := by
  have hfields : Json.sortedFields (snapshot.active.map fun p => (p.1, p.2.json)) =
      activeFields snapshot := by
    rw [Json.sortedFields_eq_map, List.map_map, activeFields]
    exact List.map_congr_left fun p _ => congrArg (Prod.mk p.1) (sorted_json p.2)
  have hsorted : (activeFields snapshot).Pairwise fun p q => p.1 ≤ q.1 := by
    rw [activeFields, List.pairwise_map]
    exact (List.pairwise_map.mp h.ascending).imp fun hlt => le_of_lt hlt
  rw [activeJson, Json.sorted, hfields, Json.sortFields_of_sorted hsorted]

def replyFieldsInOrder (snapshot : AlarmCanonicalSnapshot) (active : Json) :
    List (String × Json) :=
  [("active", active), ("ok", .bool true), ("proto", .int protocolVersion),
    ("schema", .str periodicQuerySchema), ("state_revision", .int snapshot.stateRevision),
    ("state_token", .str snapshot.stateToken)]

theorem envelope_snapshotReply (snapshot : AlarmCanonicalSnapshot) :
    envelope (snapshotReply snapshot) =
      snapshotReply snapshot ++ [("proto", .int protocolVersion)] := by
  simp [envelope, snapshotReply, Json.insertField]

theorem sorted_envelope (h : Answered sha256 snapshot) :
    (Json.obj (envelope (snapshotReply snapshot))).sorted =
      .obj (replyFieldsInOrder snapshot (.obj (activeFields snapshot))) := by
  rw [envelope_snapshotReply]
  simp [snapshotReply, Json.sorted, Json.sortedFields, sorted_activeJson h, Json.sortFields,
    replyFieldsInOrder]

theorem distinct_envelope (h : Answered sha256 snapshot) :
    (Json.obj (envelope (snapshotReply snapshot))).Distinct := by
  rw [envelope_snapshotReply]
  refine .obj (by simp [snapshotReply]) fun p hp => ?_
  simp only [snapshotReply, List.cons_append, List.nil_append, List.mem_cons, List.not_mem_nil,
    or_false] at hp
  rcases hp with rfl | rfl | rfl | rfl | rfl | rfl
  · exact .bool _
  · exact .str _
  · exact .int _
  · exact .str _
  · exact distinct_activeJson h
  · exact .int _

/-- The digest is 64 lowercase hexadecimal digits. -/
def IsDigest (sha256 : ByteArray → String) : Prop :=
  ∀ b, (sha256 b).toList.length = 64 ∧ ∀ c ∈ (sha256 b).toList, isHex c = true

theorem isDigest_const {digest : String} (hlength : digest.toList.length = 64)
    (hhex : digest.toList.all isHex = true) : IsDigest fun _ => digest :=
  fun _ => ⟨hlength, List.all_eq_true.mp hhex⟩

/-- The text of the reply around the text of the active alarms. -/
def replyText (snapshot : AlarmCanonicalSnapshot) (active : List Char) : List Char :=
  '\x7b' :: Json.commas ([("active", active), ("ok", ['t', 'r', 'u', 'e']), ("proto", ['2']),
    ("schema", Json.stringText false periodicQuerySchema),
    ("state_revision", (snapshot.stateRevision : ℤ).repr.toList),
    ("state_token", Json.stringText false snapshot.stateToken)].map (Json.fieldText false)) ++
      ['\x7d']

theorem dumps_envelope {t : List Char} (h : Json.dumps false (activeJson snapshot) = some t) :
    Json.dumps false (.obj (envelope (snapshotReply snapshot))) =
      some (replyText snapshot t) := by
  have hproto : (protocolVersion : ℤ).repr.toList = ['2'] := rfl
  rw [envelope_snapshotReply]
  simp [snapshotReply, Json.dumps, Json.dumpsFields, h, hproto, Json.sortFields, replyText]

theorem escapeChar_plain {c : Char} (hlow : 32 ≤ c.toNat) (hquote : c ≠ '"')
    (hslash : c ≠ '\\') : Json.escapeChar false c = [c] := by
  have hne (d : Char) (hd : d.toNat < 32) : c ≠ d := by
    rintro rfl
    omega
  rw [Json.escapeChar, if_neg hquote, if_neg hslash, if_neg (hne _ (by decide)),
    if_neg (hne _ (by decide)), if_neg (hne _ (by decide)), if_neg (hne _ (by decide)),
    if_neg (hne _ (by decide)), if_neg (by omega), if_neg fun h => Bool.false_ne_true h.1]

theorem isHex_plain {c : Char} (h : isHex c = true) :
    c.utf8Size = 1 ∧ Json.escapeChar false c = [c] := by
  have hrange : 48 ≤ c.toNat ∧ c.toNat ≤ 57 ∨ 97 ≤ c.toNat ∧ c.toNat ≤ 102 := by
    simp only [isHex, Char.isDigit, Bool.or_eq_true, Bool.and_eq_true, decide_eq_true_eq,
      Char.le_def] at h
    exact h
  refine ⟨Char.utf8Size_eq_one_iff.mpr ?_, escapeChar_plain (by omega) ?_ ?_⟩
  · have hval : c.toNat ≤ 127 := by omega
    exact hval
  · rintro rfl
    revert hrange
    decide
  · rintro rfl
    revert hrange
    decide

theorem token_plain (hsha : IsDigest sha256) (b : ByteArray) :
    ("sha256:" ++ sha256 b).utf8ByteSize = 71 ∧
      ∀ c ∈ ("sha256:" ++ sha256 b).toList, Json.escapeChar false c = [c] := by
  obtain ⟨hlength, hhex⟩ := hsha b
  constructor
  · have hsize : textBytes (sha256 b).toList = 64 := by
      rw [textBytes_of_ascii fun c hc => (isHex_plain (hhex c hc)).1, hlength]
    rw [textBytes, String.ofList_toList] at hsize
    rw [String.utf8ByteSize_append]
    exact congrArg (7 + ·) hsize
  · intro c hc
    rw [String.toList_append] at hc
    have hplain : Plain "sha256:" = true := by decide
    have hprefix (c : Char) (hc : c ∈ "sha256:".toList) : Json.escapeChar false c = [c] :=
      of_decide_eq_true (List.all_eq_true.mp hplain c hc)
    rcases List.mem_append.mp hc with hc | hc
    · exact hprefix c hc
    · exact (isHex_plain (hhex c hc)).2

/-- The reply is longer than its active alarms by 174 bytes and the digits of its revision. -/
theorem textBytes_replyText (hsha : IsDigest sha256) (h : Answered sha256 snapshot)
    (t : List Char) : textBytes (replyText snapshot t) =
      textBytes t + 174 + (FloatText.digits snapshot.stateRevision).length := by
  obtain ⟨text, _, _, htoken⟩ := h.token
  obtain ⟨hsize, hplain⟩ := token_plain hsha (String.ofList text).toUTF8
  have htokenBytes : textBytes (Json.stringText false snapshot.stateToken) = 73 := by
    rw [htoken, textBytes_stringText hplain, hsize]
  have hdigits : textBytes (snapshot.stateRevision : ℤ).repr.toList =
      (FloatText.digits snapshot.stateRevision).length := by
    rw [Json.repr_toList, if_pos (Int.natCast_nonneg _), Int.toNat_natCast]
    refine textBytes_of_ascii fun c hc => (isHex_plain ?_).1
    rw [isHex, FloatText.digits_all _ c hc, Bool.true_or]
  have hbrace : '\x7b'.utf8Size = 1 ∧ '\x7d'.utf8Size = 1 := ⟨rfl, rfl⟩
  have hactive : textBytes (Json.stringText false "active") = 8 :=
    textBytes_plain (by decide)
  have hok : textBytes (Json.stringText false "ok") = 4 :=
    textBytes_plain (by decide)
  have hproto : textBytes (Json.stringText false "proto") = 7 :=
    textBytes_plain (by decide)
  have hschema : textBytes (Json.stringText false "schema") = 8 :=
    textBytes_plain (by decide)
  have hrevision : textBytes (Json.stringText false "state_revision") = 16 :=
    textBytes_plain (by decide)
  have hstate : textBytes (Json.stringText false "state_token") = 13 :=
    textBytes_plain (by decide)
  have hquery : textBytes (Json.stringText false periodicQuerySchema) = 27 :=
    textBytes_plain (by decide)
  have htrue : textBytes ['t', 'r', 'u', 'e'] = 4 := rfl
  have htwo : textBytes ['2'] = 1 := rfl
  rw [replyText, textBytes_append, textBytes_cons, textBytes_cons, textBytes_commas, textBytes_nil,
    hbrace.1, hbrace.2]
  simp only [List.map_cons, List.map_nil, List.sum_cons, List.sum_nil, List.length_cons,
    List.length_nil, textBytes_fieldText, hactive, hok, hproto, hschema, hrevision, hstate, hquery,
    htrue, htwo, htokenBytes, hdigits]
  omega

/-! ## What the server checks -/

theorem identifier_size {s : String} (h : identifier s = true) : s.utf8ByteSize ≤ 256 := by
  rw [identifier, text, Bool.and_eq_true, Bool.and_eq_true, decide_eq_true_iff,
    decide_eq_true_iff] at h
  exact h.1.2

theorem length_le_utf8ByteSize (s : String) : s.length ≤ s.utf8ByteSize := by
  have hle := length_le_textBytes s.toList
  rw [textBytes, String.ofList_toList, String.length_toList] at hle
  exact hle

theorem itemsCount_str (l : List String) : itemsCount (l.map Json.str) = l.length := by
  induction l with
  | nil => rfl
  | cons s l ih =>
      rw [List.map_cons, itemsCount, ih, List.length_cons]
      exact Nat.add_comm 1 l.length

theorem valueCount_json {p : String × SnapshotEntry} (h : Stated p) :
    valueCount p.2.json ≤ 70 := by
  have hcount := h.count
  have htime : valueCount (p.2.acknowledgedAt.elim .null Json.float) = 1 := by
    cases p.2.acknowledgedAt with
    | none => rfl
    | some x => rfl
  simp only [SnapshotEntry.json, valueCount, fieldsCount, itemsCount_str, htime]
  omega

theorem fieldsCount_active {l : List (String × SnapshotEntry)} (h : ∀ p ∈ l, Stated p) :
    fieldsCount (l.map fun p => (p.1, p.2.json)) ≤ 70 * l.length := by
  induction l with
  | nil => exact le_refl _
  | cons p l ih =>
      have hp : valueCount (p.1, p.2.json).2 ≤ 70 := valueCount_json (h p (List.mem_cons_self ..))
      have hl := ih fun q hq => h q (List.mem_cons_of_mem _ hq)
      rw [List.map_cons, fieldsCount, List.length_cons]
      omega

theorem replyItems_str {l : List String} (h : ∀ s ∈ l, identifier s = true) :
    replyItems 5 (l.map Json.str) = true := by
  induction l with
  | nil => rfl
  | cons s l ih =>
      have hs := identifier_size (h s (List.mem_cons_self ..))
      have hlarge : s.utf8ByteSize ≤ maxCommandReplySize := by
        rw [maxCommandReplySize]
        omega
      rw [List.map_cons, replyItems, ih fun c hc => h c (List.mem_cons_of_mem _ hc), replyValue,
        decide_eq_true hlarge]
      rfl

theorem replyValue_json {p : String × SnapshotEntry} (h : Stated p) :
    replyValue 3 p.2.json = true := by
  have hlevel : p.2.level.utf8ByteSize ≤ maxCommandReplySize := by
    have hmem := h.level
    simp only [List.mem_cons, List.not_mem_nil, or_false] at hmem
    rcases hmem with heq | heq | heq
    all_goals
      rw [heq]
      decide
  have hfinite {x : Float} (hx : finiteNumber (.float x) = true) : x.isFinite = true := by
    rw [finiteNumber, Option.any_some, Bool.and_eq_true] at hx
    exact hx.1
  have htime : replyValue 4 (p.2.acknowledgedAt.elim .null Json.float) = true := by
    cases hack : p.2.acknowledged with
    | true =>
        obtain ⟨x, hx, hvalid⟩ := h.acknowledged hack
        rw [hx, Option.elim_some, replyValue, hfinite hvalid]
        rfl
    | false =>
        rw [h.unacknowledged hack]
        rfl
  have hkeys : ∀ k ∈ alarmKeys, k.length ≤ commandReplyMaxJsonKeyChars := by decide
  simp only [alarmKeys, List.forall_mem_cons] at hkeys
  obtain ⟨h₁, h₂, h₃, h₄, h₅, _⟩ := hkeys
  simp only [SnapshotEntry.json, replyValue, replyFields, decide_eq_true h₁, decide_eq_true h₂,
    decide_eq_true h₃, decide_eq_true h₄, decide_eq_true h₅, decide_eq_true hlevel,
    hfinite h.triggeredAt, replyItems_str h.channels, htime]
  rfl

theorem replyFields_active {l : List (String × SnapshotEntry)} (h : ∀ p ∈ l, Stated p) :
    replyFields 3 (l.map fun p => (p.1, p.2.json)) = true := by
  induction l with
  | nil => rfl
  | cons p l ih =>
      have hp := h p (List.mem_cons_self ..)
      have hkey : p.1.length ≤ commandReplyMaxJsonKeyChars :=
        (length_le_utf8ByteSize p.1).trans (identifier_size hp.alarmId)
      rw [List.map_cons, replyFields, replyValue_json hp,
        ih fun q hq => h q (List.mem_cons_of_mem _ hq), decide_eq_true hkey]
      rfl

theorem validateCommandReplyStructure_snapshotReply (hsha : IsDigest sha256)
    (h : Answered sha256 snapshot) (hrevision : snapshot.stateRevision ≤ maxSequence) :
    validateCommandReplyStructure (envelope (snapshotReply snapshot)) = true := by
  obtain ⟨t, _, _, htoken⟩ := h.token
  have hhistory : historyRowBound (envelope (snapshotReply snapshot)) = true := by
    have hnone : (snapshotReply snapshot ++ [("proto", Json.int protocolVersion)]).lookup "data" =
        none := rfl
    rw [envelope_snapshotReply, historyRowBound, hnone]
  have hcount : valueCount (.obj (envelope (snapshotReply snapshot))) ≤
      commandReplyMaxJsonItems := by
    have hactive := fieldsCount_active h.stated
    have hlength := h.count
    rw [envelope_snapshotReply]
    simp only [snapshotReply, List.cons_append, List.nil_append, valueCount, fieldsCount,
      activeJson, commandReplyMaxJsonItems, commandReplyHistoryMaxRows]
    omega
  have htokenSize : snapshot.stateToken.utf8ByteSize ≤ maxCommandReplySize := by
    rw [htoken, (token_plain hsha _).1]
    decide
  have hdigits : (snapshot.stateRevision : ℤ).natAbs.repr.length ≤
      commandReplyMaxIntegerDigits := by
    have hlt : snapshot.stateRevision < 10 ^ commandReplyMaxIntegerDigits :=
      lt_of_le_of_lt hrevision (by decide)
    rw [Int.natAbs_natCast, ← String.length_toList, Nat.toList_repr]
    exact (Nat.length_toDigits_le_iff (by decide) (by decide)).mpr hlt
  have hvalue : replyValue 1 (.obj (envelope (snapshotReply snapshot))) = true := by
    have hkeys : ∀ k ∈ ["ok", "schema", "state_revision", "state_token", "active", "proto"],
        k.length ≤ commandReplyMaxJsonKeyChars := by decide
    simp only [List.forall_mem_cons] at hkeys
    obtain ⟨h₁, h₂, h₃, h₄, h₅, h₆, _⟩ := hkeys
    have hproto : protocolVersion.natAbs.repr.length ≤ commandReplyMaxIntegerDigits := by decide
    have hschema : periodicQuerySchema.utf8ByteSize ≤ maxCommandReplySize := by decide
    rw [envelope_snapshotReply]
    simp only [snapshotReply, List.cons_append, List.nil_append, replyValue, replyFields,
      activeJson, replyFields_active h.stated, decide_eq_true h₁, decide_eq_true h₂,
      decide_eq_true h₃, decide_eq_true h₄, decide_eq_true h₅, decide_eq_true h₆,
      decide_eq_true hproto, decide_eq_true hschema, decide_eq_true htokenSize,
      decide_eq_true hdigits]
    rfl
  rw [validateCommandReplyStructure, hhistory, decide_eq_true hcount, hvalue]
  rfl

theorem encodePeriodicCommandReply_eq (hsha : IsDigest sha256) (h : Answered sha256 snapshot)
    (hrevision : snapshot.stateRevision ≤ maxSequence) {t : List Char}
    (ht : Json.dumps false (activeJson snapshot) = some t)
    (hsize : textBytes t ≤ snapshotMaxCanonicalBytes) :
    encodePeriodicCommandReply (snapshotReply snapshot) =
      some (String.ofList (replyText snapshot t)).toUTF8 := by
  have hwire : textBytes (replyText snapshot t) ≤ maxCommandReplySize := by
    have hdigits : (FloatText.digits snapshot.stateRevision).length ≤ 19 :=
      (Nat.length_toDigits_le_iff (by decide) (by decide)).mpr
        (lt_of_le_of_lt hrevision (by decide))
    rw [textBytes_replyText hsha h, maxCommandReplySize]
    rw [snapshotMaxCanonicalBytes] at hsize
    omega
  rw [encodePeriodicCommandReply,
    if_pos (validateCommandReplyStructure_snapshotReply hsha h hrevision), jsonBytes,
    dumps_envelope ht, Option.map_some, Option.bind_some, if_neg]
  exact not_lt.mpr hwire

end AlarmQuery
end Periodic
end CryoDaq
