import CryoDaq.Periodic.AlarmSnapshots

/-!
# The size of replies

The engine bounds the canonical text of the active alarms and the report process bounds the reply
around it, by the same number of bytes: a snapshot near the bound has a reply that is refused.
-/

namespace CryoDaq
namespace Periodic
namespace AlarmQuery

open Alarms
open Json (textBytes textBytes_nil textBytes_append textBytes_cons textBytes_of_ascii
  length_le_textBytes textBytes_commas textBytes_fieldText textBytes_stringText Plain
  textBytes_plain)

variable {sha256 : ByteArray → String} {s : AlarmStateManager} {snapshot : AlarmCanonicalSnapshot}

theorem snapshotActiveCanonical_eq {active : List (String × SnapshotEntry)} {t : List Char}
    (hcount : s.active.entries.length ≤ snapshotMaxActive)
    (hactive : snapshotActive s.active = some active)
    (ht : Json.dumps false (.obj (active.map fun p => (p.1, p.2.json))) = some t)
    (hsize : textBytes t ≤ snapshotMaxCanonicalBytes) :
    s.snapshotActiveCanonical sha256 =
      some ⟨s.stateRevision, active, "sha256:" ++ sha256 (String.ofList t).toUTF8⟩ := by
  have hguard : guard ((String.ofList t).toUTF8.size ≤ snapshotMaxCanonicalBytes) =
      (some () : Option Unit) := if_pos hsize
  rw [AlarmStateManager.snapshotActiveCanonical, if_neg (not_lt.mpr hcount), hactive]
  simp only [Option.bind_eq_bind, Option.bind_some, ht, hguard]

theorem refused_of_large (hsha : IsDigest sha256)
    (h : s.snapshotActiveCanonical sha256 = some snapshot)
    (hrevision : snapshot.stateRevision ≤ maxSequence) {t : List Char}
    (ht : Json.dumps false (activeJson snapshot) = some t)
    (hsize : textBytes t ≤ snapshotMaxCanonicalBytes)
    (hlarge : maxSnapshotResponseBytes <
      textBytes t + 174 + (FloatText.digits snapshot.stateRevision).length) :
    ∃ wire, encodePeriodicCommandReply (snapshotReply snapshot) = some wire ∧
      alarmSnapshot sha256 wire = .failed "response_invalid" := by
  have hanswered := answered_of_snapshot h
  have hwire : maxSnapshotResponseBytes <
      (String.ofList (replyText snapshot t)).toUTF8.size := by
    change _ < textBytes (replyText snapshot t)
    rw [textBytes_replyText hsha hanswered]
    exact hlarge
  exact ⟨_, encodePeriodicCommandReply_eq hsha hanswered hrevision ht hsize,
    by rw [alarmSnapshot, if_pos hwire]⟩

theorem validSnapshotText_ofList {t : List Char} (hne : t ≠ []) (hsize : textBytes t ≤ 256)
    (hchars : ∀ c ∈ t, 32 ≤ c.toNat ∧ c.toNat ≠ 127) :
    validSnapshotText (String.ofList t) = true := by
  have hempty : String.ofList t ≠ "" := fun h => hne (String.ofList_eq_empty_iff.mp h)
  have hlength : (String.ofList t).length ≤ snapshotMaxText := by
    rw [String.length_ofList]
    exact (length_le_textBytes t).trans hsize
  have hbytes : (String.ofList t).utf8ByteSize ≤ snapshotMaxText := hsize
  have hall : (t.all fun c => 32 ≤ c.toNat && c.toNat ≠ 127) = true := by
    refine List.all_eq_true.mpr fun c hc => ?_
    rw [decide_eq_true (hchars c hc).1, decide_eq_true (hchars c hc).2]
    rfl
  rw [validSnapshotText, String.toList_ofList, hall, decide_eq_true hempty,
    decide_eq_true hlength, decide_eq_true hbytes]
  rfl

theorem sortedChannels_eq {l : List String} (h : l.Pairwise (· < ·)) : sortedChannels l = l := by
  rw [sortedChannels, List.dedup_eq_self.mpr (h.imp fun hlt => ne_of_lt hlt)]
  exact List.Pairwise.insertionSort_eq (h.imp fun hlt => le_of_lt hlt)

theorem dumps_uniform {entry : SnapshotEntry} {u : List Char} {ids : List String} {size : ℕ}
    (hu : Json.dumps false entry.json = some u)
    (hids : ∀ k ∈ ids, textBytes (Json.stringText false k) = size)
    (hsorted : ids.Pairwise (· < ·)) :
    ∃ t, Json.dumps false (.obj (ids.map fun k => (k, entry.json))) = some t ∧
      textBytes t = ids.length * (size + 1 + textBytes u) + (ids.length - 1) + 2 := by
  have hfields : Json.dumpsFields false (ids.map fun k => (k, entry.json)) =
      some (ids.map fun k => (k, u)) := by
    rw [Json.dumpsFields_eq_some, List.forall₂_map_left_iff, List.forall₂_map_right_iff,
      List.forall₂_same]
    exact fun _ _ => ⟨rfl, hu⟩
  have horder : Json.sortFields (ids.map fun k => (k, u)) = ids.map fun k => (k, u) :=
    Json.sortFields_of_sorted (List.pairwise_map.mpr (hsorted.imp fun h => le_of_lt h))
  have hbytes : ((ids.map fun k => (k, u)).map (Json.fieldText false)).map textBytes =
      ids.map fun _ => size + 1 + textBytes u := by
    rw [List.map_map, List.map_map]
    refine List.map_congr_left fun k hk => ?_
    rw [Function.comp_apply, Function.comp_apply, textBytes_fieldText, hids k hk]
  have hbrace : '\x7b'.utf8Size = 1 ∧ '\x7d'.utf8Size = 1 := ⟨rfl, rfl⟩
  refine ⟨'\x7b' :: Json.commas ((ids.map fun k => (k, u)).map (Json.fieldText false)) ++ ['\x7d'],
    ?_, ?_⟩
  · rw [Json.dumps, hfields, Option.map_some, horder]
  · rw [textBytes_append, textBytes_cons, textBytes_cons, textBytes_commas, textBytes_nil, hbytes,
      hbrace.1, hbrace.2]
    simp only [List.map_const', List.sum_replicate_nat, List.length_map]
    omega

theorem textBytes_replicate {c : Char} (hc : c.utf8Size = 1) (k : ℕ) :
    textBytes (List.replicate k c) = k := by
  rw [textBytes_of_ascii fun d hd => (List.eq_of_mem_replicate hd).symm ▸ hc,
    List.length_replicate]

theorem textBytes_replicated {c : Char} (hc : c.utf8Size = 1)
    (hplain : Json.escapeChar false c = [c]) {k : ℕ} :
    textBytes (Json.stringText false (String.ofList (List.replicate k c))) = k + 2 := by
  have hsize : (String.ofList (List.replicate k c)).utf8ByteSize = k := textBytes_replicate hc k
  rw [textBytes_stringText, hsize]
  intro d hd
  rw [String.toList_ofList] at hd
  rw [List.eq_of_mem_replicate hd, hplain]

theorem validSnapshotText_replicate {c : Char} (hsize : c.utf8Size = 1)
    (hc : 32 ≤ c.toNat ∧ c.toNat ≠ 127) {k : ℕ} (hpos : k ≠ 0) (hk : k ≤ 256) :
    validSnapshotText (String.ofList (List.replicate k c)) = true := by
  refine validSnapshotText_ofList (by simpa using hpos) ?_ fun d hd => ?_
  · rw [textBytes_replicate hsize]
    exact hk
  · rw [List.eq_of_mem_replicate hd]
    exact hc

theorem dumps_entry (channels : List String) :
    Json.dumps false (SnapshotEntry.json ⟨"INFO", 0.0, channels, false, none⟩) =
      some ('\x7b' :: Json.commas ([("acknowledged", ['f', 'a', 'l', 's', 'e']),
        ("acknowledged_at", ['n', 'u', 'l', 'l']),
        ("channels", '[' :: Json.commas (channels.map (Json.stringText false)) ++ [']']),
        ("level", Json.stringText false "INFO"), ("triggered_at", FloatText.reprFloat 0.0)].map
          (Json.fieldText false)) ++ ['\x7d']) := by
  have hfinite : (0.0 : Float).isFinite = true := by decide +kernel
  have hchannels : Json.dumpsItems false (channels.map Json.str) =
      some (channels.map (Json.stringText false)) := by
    rw [Json.dumpsItems_eq_some, List.forall₂_map_left_iff, List.forall₂_map_right_iff,
      List.forall₂_same]
    exact fun _ _ => rfl
  simp [SnapshotEntry.json, Json.dumps, Json.dumpsFields, hfinite, hchannels, Json.sortFields]

/-! ## A crowded manager -/

/-- The first letters of the Cyrillic block. -/
def letter (n : ℕ) : Char := Char.ofNat (1024 + n)

theorem toNat_letter {n : ℕ} (hn : n < 128) : (letter n).toNat = 1024 + n := by
  have hvalid : (1024 + n).isValidChar := .inl (by omega)
  rw [letter, Char.ofNat, dif_pos hvalid]
  rfl

theorem utf8Size_letter {n : ℕ} (hn : n < 128) : (letter n).utf8Size = 2 := by
  have hnat : (letter n).val.toNat = 1024 + n := toNat_letter hn
  rw [Char.utf8Size_eq_two_iff, UInt32.lt_iff_toNat_lt, UInt32.le_iff_toNat_le, hnat]
  have hbounds : (127 : UInt32).toNat = 127 ∧ (2047 : UInt32).toNat = 2047 := ⟨rfl, rfl⟩
  omega

theorem escapeChar_letter {n : ℕ} (hn : n < 128) :
    Json.escapeChar false (letter n) = [letter n] := by
  have hnat := toNat_letter hn
  refine escapeChar_plain (by omega) ?_ ?_
  · intro heq
    rw [heq] at hnat
    have hquote : '"'.toNat = 34 := rfl
    omega
  · intro heq
    rw [heq] at hnat
    have hslash : '\\'.toNat = 92 := rfl
    omega

def letterId (n : ℕ) : String := String.ofList [letter n]

theorem letterId_ascending : ((List.range 128).map letterId).Pairwise (· < ·) := by
  refine List.pairwise_map.mpr (List.pairwise_lt_range.imp_of_mem fun {n m} hn hm hlt => ?_)
  rw [String.lt_iff_toList_lt, letterId, letterId, String.toList_ofList, String.toList_ofList]
  refine List.Lex.rel ?_
  have hletters : (letter n).toNat < (letter m).toNat := by
    rw [toNat_letter (List.mem_range.mp hn), toNat_letter (List.mem_range.mp hm)]
    omega
  exact hletters

theorem textBytes_letterId {n : ℕ} (hn : n < 128) :
    textBytes (Json.stringText false (letterId n)) = 4 := by
  have hbytes : (letterId n).utf8ByteSize = 2 :=
    String.utf8ByteSize_singleton.trans (utf8Size_letter hn)
  rw [textBytes_stringText, hbytes]
  intro c hc
  rw [letterId, String.toList_ofList, List.mem_singleton] at hc
  rw [hc, escapeChar_letter hn]

def crowdedChannels : List String :=
  [String.ofList (List.replicate 200 'c'), String.ofList (List.replicate 175 'd')]

theorem crowdedChannels_ascending : crowdedChannels.Pairwise (· < ·) := by
  refine List.pairwise_pair.mpr ?_
  rw [String.lt_iff_toList_lt, String.toList_ofList, String.toList_ofList]
  exact List.Lex.rel (by decide)

def crowdedEvent (n : ℕ) : Event where
  alarmId := letterId n
  level := "INFO"
  message := ""
  triggeredAt := 0.0
  channels := crowdedChannels
  values := Dict.empty

/-- 128 alarms whose canonical text has 61313 bytes. -/
def crowded : AlarmStateManager where
  active := ⟨(List.range 128).map fun n => (letterId n, crowdedEvent n), by
    rw [List.map_map]
    exact letterId_ascending.imp fun h => ne_of_lt h⟩
  sustainedSince := Dict.empty
  stateRevision := 128
  activationSequence := 128
  history := []

def crowdedEntry : SnapshotEntry where
  level := "INFO"
  triggeredAt := 0.0
  channels := crowdedChannels
  acknowledged := false
  acknowledgedAt := none

theorem snapshotEntry_crowded {n : ℕ} (hn : n < 128) :
    snapshotEntry (letterId n) (crowdedEvent n) = some crowdedEntry := by
  have hid : validSnapshotText (letterId n) = true := by
    refine validSnapshotText_ofList (List.cons_ne_nil _ _) ?_ fun c hc => ?_
    · rw [textBytes_cons, utf8Size_letter hn]
      decide
    · rw [List.mem_singleton.mp hc, toNat_letter hn]
      omega
  have hchannels : crowdedChannels.all validSnapshotText = true := by
    rw [crowdedChannels, List.all_cons, List.all_cons,
      validSnapshotText_replicate rfl (by decide) (by decide) (by decide),
      validSnapshotText_replicate rfl (by decide) (by decide) (by decide)]
    rfl
  have hlevel : "INFO" ∈ alarmLevels := by decide
  have hlength : crowdedChannels.length ≤ snapshotMaxChannels := by decide
  have hnumber : validSnapshotNumber 0.0 = true := by decide +kernel
  rw [snapshotEntry, if_pos]
  · simp only [crowdedEvent, sortedChannels_eq crowdedChannels_ascending]
    rfl
  · simp [crowdedEvent, hid, hchannels, hnumber, hlevel, hlength]

theorem crowded_active : snapshotActive crowded.active =
    some ((List.range 128).map fun n => (letterId n, crowdedEntry)) := by
  have hsorted : Json.sortFields crowded.active.entries = crowded.active.entries := by
    refine Json.sortFields_of_sorted (List.pairwise_map.mpr ?_)
    exact (List.pairwise_map.mp letterId_ascending).imp fun h => le_of_lt h
  have hmap (l : List ℕ) (hl : l ⊆ List.range 128) :
      (l.map fun n => (letterId n, crowdedEvent n)).mapM
          (fun p => (snapshotEntry p.1 p.2).map fun entry => (p.1, entry)) =
        some (l.map fun n => (letterId n, crowdedEntry)) := by
    induction l with
    | nil => rfl
    | cons n l ih =>
        have hn : n < 128 := List.mem_range.mp (hl (List.mem_cons_self ..))
        rw [List.map_cons, List.mapM_cons, snapshotEntry_crowded hn,
          Option.map_some, ih fun m hm => hl (List.mem_cons_of_mem _ hm)]
        rfl
  rw [snapshotActive, hsorted]
  exact hmap _ fun _ h => h

/-- The digest of the canonical text of `crowded`. -/
def crowdedDigest : ByteArray → String := fun _ =>
  "facd85f0718495cdf0568fb405ad45e9b74fc9033e7e23b98eac5b0c7d96717d"

theorem crowdedDigest_isDigest : IsDigest crowdedDigest :=
  isDigest_const (by decide) (by decide)

theorem crowdedEntry_text :
    ∃ u, Json.dumps false crowdedEntry.json = some u ∧ textBytes u = 473 := by
  refine ⟨_, dumps_entry crowdedChannels, ?_⟩
  have hack : textBytes (Json.stringText false "acknowledged") = 14 := textBytes_plain (by decide)
  have hackAt : textBytes (Json.stringText false "acknowledged_at") = 17 :=
    textBytes_plain (by decide)
  have hchannelsKey : textBytes (Json.stringText false "channels") = 10 :=
    textBytes_plain (by decide)
  have hlevelKey : textBytes (Json.stringText false "level") = 7 := textBytes_plain (by decide)
  have htriggered : textBytes (Json.stringText false "triggered_at") = 14 :=
    textBytes_plain (by decide)
  have hlevel : textBytes (Json.stringText false "INFO") = 6 := textBytes_plain (by decide)
  have hvalues : textBytes ['f', 'a', 'l', 's', 'e'] = 5 ∧ textBytes ['n', 'u', 'l', 'l'] = 4 :=
    ⟨rfl, rfl⟩
  obtain ⟨hfalse, hnull⟩ := hvalues
  have hzero : textBytes (FloatText.reprFloat 0.0) = 3 := by decide +kernel
  have hchannels : (crowdedChannels.map (Json.stringText false)).map textBytes = [202, 177] := by
    rw [crowdedChannels, List.map_cons, List.map_cons, List.map_cons, List.map_cons,
      textBytes_replicated rfl (by decide), textBytes_replicated rfl (by decide)]
    rfl
  have hsizes : '\x7b'.utf8Size = 1 ∧ '\x7d'.utf8Size = 1 ∧ '['.utf8Size = 1 ∧
      ']'.utf8Size = 1 := ⟨rfl, rfl, rfl, rfl⟩
  obtain ⟨hopen, hclose, hleft, hright⟩ := hsizes
  have hlist : textBytes ('[' :: Json.commas (crowdedChannels.map (Json.stringText false)) ++
      [']']) = 382 := by
    rw [textBytes_append, textBytes_cons, textBytes_cons, textBytes_commas, hchannels, hleft,
      hright]
    rfl
  rw [textBytes_append, textBytes_cons, textBytes_cons, textBytes_commas, textBytes_nil,
    hopen, hclose]
  simp only [List.map_cons, List.map_nil, List.sum_cons, List.sum_nil, List.length_cons,
    List.length_nil, textBytes_fieldText, hack, hackAt, hchannelsKey, hlevelKey, htriggered,
    hlevel, hfalse, hnull, hzero, hlist]
  rfl

/-- The engine states a snapshot whose reply the client refuses. -/
theorem crowded_refused : ∃ snapshot wire,
    crowded.snapshotActiveCanonical crowdedDigest = some snapshot ∧
      snapshot.stateRevision ≤ maxSequence ∧
      encodePeriodicCommandReply (snapshotReply snapshot) = some wire ∧
      alarmSnapshot crowdedDigest wire = .failed "response_invalid" := by
  obtain ⟨u, hu, hbytes⟩ := crowdedEntry_text
  have hids : ∀ k ∈ (List.range 128).map letterId,
      textBytes (Json.stringText false k) = 4 := by
    intro k hk
    obtain ⟨n, hn, rfl⟩ := List.mem_map.mp hk
    exact textBytes_letterId (List.mem_range.mp hn)
  obtain ⟨t, ht, hsize⟩ := dumps_uniform hu hids letterId_ascending
  have hsize : textBytes t = 61313 := by
    rw [hsize, hbytes, List.length_map, List.length_range]
  have hbound : textBytes t ≤ snapshotMaxCanonicalBytes := by
    rw [hsize]
    decide
  have hrevision : crowded.stateRevision ≤ maxSequence := by decide
  have htext : Json.dumps false (.obj (((List.range 128).map fun n =>
      (letterId n, crowdedEntry)).map fun p => (p.1, p.2.json))) = some t := by
    rw [List.map_map] at ht ⊢
    exact ht
  have hcount : crowded.active.entries.length ≤ snapshotMaxActive := by
    rw [crowded, List.length_map, List.length_range]
    exact le_refl _
  have hsnapshot : crowded.snapshotActiveCanonical crowdedDigest = some _ :=
    snapshotActiveCanonical_eq hcount crowded_active htext hbound
  obtain ⟨wire, hwire, hrefused⟩ := refused_of_large crowdedDigest_isDigest hsnapshot hrevision
    htext hbound (by
      have hdigits : (FloatText.digits crowded.stateRevision).length = 3 := by decide
      rw [hsize, hdigits]
      decide)
  exact ⟨_, wire, hsnapshot, hrevision, hwire, hrefused⟩

end AlarmQuery
end Periodic
end CryoDaq
