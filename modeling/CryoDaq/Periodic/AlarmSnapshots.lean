import CryoDaq.Periodic.AlarmReply

/-!
# The report process accepts what the engine states

The reply of every snapshot passes the checks of the client when its bytes do not exceed the
client's bound; and what the client accepts under the token of a snapshot has its alarms.
-/

namespace CryoDaq
namespace Periodic
namespace AlarmQuery

open Alarms
open Json (textBytes textBytes_nil textBytes_append textBytes_cons textBytes_of_ascii
  length_le_textBytes textBytes_commas textBytes_fieldText textBytes_stringText Plain
  textBytes_plain fromUTF8?_toUTF8)

variable {sha256 : ByteArray → String} {s : AlarmStateManager} {snapshot : AlarmCanonicalSnapshot}

theorem visitFields_cons {k : String} (hk : k.utf8ByteSize ≤ 256) (v : Json)
    (rest : List (String × Json)) (depth : ℕ) (c : Counts) :
    visitFields ((k, v) :: rest) depth c =
      (visit v depth c).bind fun c => visitFields rest depth c :=
  if_neg (not_lt.mpr hk)

theorem checkItems_ok {c : Counts} (h : c.items ≤ maxJsonItems) : checkItems c = some c :=
  if_neg (not_lt.mpr h)

theorem visit_str {s : String} (hs : s.utf8ByteSize ≤ 256) {depth : ℕ}
    (hdepth : depth ≤ maxJsonDepth) {c : Counts} (hitems : c.items ≤ maxJsonItems) : visit (.str s) depth c = some c := by
  rw [visit, if_neg, checkItems_ok hitems]
  rintro (hdeep | hlarge)
  · exact absurd hdepth (not_le.mpr hdeep)
  · rw [periodicQueryMaxBytes] at hlarge
    omega

theorem visitItems_str {l : List String} (h : ∀ s ∈ l, identifier s = true) {c : Counts}
    (hitems : c.items ≤ maxJsonItems) : visitItems (l.map Json.str) 4 c = some c := by
  induction l with
  | nil => rfl
  | cons s l ih =>
      have hsize := identifier_size (h s (List.mem_cons_self ..))
      rw [List.map_cons, visitItems, visit_str hsize (by decide) hitems, Option.bind_some,
        ih fun d hd => h d (List.mem_cons_of_mem _ hd)]

theorem level_size {p : String × SnapshotEntry} (h : Stated p) :
    p.2.level.utf8ByteSize ≤ 256 := by
  have hmem := h.level
  simp only [List.mem_cons, List.not_mem_nil, or_false] at hmem
  rcases hmem with heq | heq | heq
  all_goals
    rw [heq]
    decide

theorem visit_entry {p : String × SnapshotEntry} (h : Stated p) {c : Counts}
    (hmappings : c.mappings < maxJsonMappings) (hlists : c.lists < maxJsonLists)
    (hitems : c.items + 69 ≤ maxJsonItems) :
    visit (.obj (entryFields p.2)) 2 c =
      some ⟨c.mappings + 1, c.lists + 1, c.items + 5 + p.2.channels.length⟩ := by
  have hcount := h.count
  have hkeys : ∀ k ∈ ["acknowledged", "acknowledged_at", "channels", "level", "triggered_at"],
      k.utf8ByteSize ≤ 256 := by decide
  simp only [List.forall_mem_cons] at hkeys
  obtain ⟨h₁, h₂, h₃, h₄, h₅, _⟩ := hkeys
  have htime (c : Counts) : visit (p.2.acknowledgedAt.elim .null Json.float) 3 c =
      checkItems c := by
    cases p.2.acknowledgedAt with
    | none => rfl
    | some x => rfl
  have hfirst : (⟨c.mappings + 1, c.lists, c.items + 5⟩ : Counts).items ≤ maxJsonItems := by
    change c.items + 5 ≤ _
    omega
  have hlast : (⟨c.mappings + 1, c.lists + 1, c.items + 5 + p.2.channels.length⟩ :
      Counts).items ≤ maxJsonItems := by
    change c.items + 5 + p.2.channels.length ≤ _
    omega
  have hchannels : visit (.arr (p.2.channels.map Json.str)) 3
      ⟨c.mappings + 1, c.lists, c.items + 5⟩ =
        some ⟨c.mappings + 1, c.lists + 1, c.items + 5 + p.2.channels.length⟩ := by
    rw [visit, if_neg, List.length_map, visitItems_str h.channels hlast, Option.bind_some,
      checkItems_ok hlast]
    rintro (hdeep | hmany)
    · exact absurd hdeep (by decide)
    · exact absurd hmany (not_lt.mpr hlists)
  have hflag : visit (.bool p.2.acknowledged) 3 ⟨c.mappings + 1, c.lists, c.items + 5⟩ =
      checkItems ⟨c.mappings + 1, c.lists, c.items + 5⟩ := rfl
  have htriggered : visit (.float p.2.triggeredAt) 3
      ⟨c.mappings + 1, c.lists + 1, c.items + 5 + p.2.channels.length⟩ =
        checkItems ⟨c.mappings + 1, c.lists + 1, c.items + 5 + p.2.channels.length⟩ := rfl
  have hfields : visitFields (entryFields p.2) 3 ⟨c.mappings + 1, c.lists, c.items + 5⟩ =
      some ⟨c.mappings + 1, c.lists + 1, c.items + 5 + p.2.channels.length⟩ := by
    rw [entryFields, visitFields_cons h₁, hflag, checkItems_ok hfirst, Option.bind_some,
      visitFields_cons h₂, htime, checkItems_ok hfirst, Option.bind_some, visitFields_cons h₃,
      hchannels, Option.bind_some, visitFields_cons h₄, visit_str (level_size h) (by decide) hlast,
      Option.bind_some, visitFields_cons h₅, htriggered, checkItems_ok hlast]
    rfl
  rw [visit, if_neg]
  · have hlength : (entryFields p.2).length = 5 := rfl
    simp only [hlength]
    rw [hfields, Option.bind_some, checkItems_ok hlast]
  · rintro (hdeep | hmany)
    · exact absurd hdeep (by decide)
    · exact absurd hmany (not_lt.mpr hmappings)

theorem visitFields_active {l : List (String × SnapshotEntry)} (h : ∀ p ∈ l, Stated p)
    {c : Counts} (hmappings : c.mappings + l.length ≤ maxJsonMappings)
    (hlists : c.lists + l.length ≤ maxJsonLists)
    (hitems : c.items + 69 * l.length ≤ maxJsonItems) :
    ∃ c', visitFields (l.map fun p => (p.1, Json.obj (entryFields p.2))) 2 c = some c' ∧
      c'.items ≤ c.items + 69 * l.length := by
  induction l generalizing c with
  | nil => exact ⟨c, rfl, le_refl _⟩
  | cons p l ih =>
      have hp := h p (List.mem_cons_self ..)
      have hcount := hp.count
      rw [List.length_cons] at hmappings hlists hitems
      obtain ⟨c', hvisit, hbound⟩ := ih (fun q hq => h q (List.mem_cons_of_mem _ hq))
        (c := ⟨c.mappings + 1, c.lists + 1, c.items + 5 + p.2.channels.length⟩)
        (by change c.mappings + 1 + _ ≤ _; omega) (by change c.lists + 1 + _ ≤ _; omega)
        (by change c.items + 5 + _ + _ ≤ _; omega)
      refine ⟨c', ?_, ?_⟩
      · rw [List.map_cons, visitFields_cons (identifier_size hp.alarmId),
          visit_entry hp (by omega) (by omega) (by omega), Option.bind_some, hvisit]
      · change _ ≤ c.items + 5 + p.2.channels.length + _ at hbound
        rw [List.length_cons]
        omega

theorem visit_reply (hsha : IsDigest sha256) (h : Answered sha256 snapshot) :
    ∃ c, visit (.obj (replyFieldsInOrder snapshot (.obj (activeFields snapshot)))) 0 ⟨0, 0, 0⟩ =
      some c := by
  have hcount := h.count
  obtain ⟨t, _, _, htoken⟩ := h.token
  have hmaxMappings : maxJsonMappings = 512 := rfl
  have hmaxLists : maxJsonLists = 256 := rfl
  have hmaxItems : maxJsonItems = 16384 := rfl
  have hkeys : ∀ k ∈ ["active", "ok", "proto", "schema", "state_revision", "state_token"],
      k.utf8ByteSize ≤ 256 := by decide
  simp only [List.forall_mem_cons] at hkeys
  obtain ⟨h₁, h₂, h₃, h₄, h₅, h₆, _⟩ := hkeys
  obtain ⟨c, hvisit, hbound⟩ := visitFields_active h.stated
    (c := ⟨2, 0, 6 + snapshot.active.length⟩) (by change 2 + _ ≤ _; omega)
    (by change 0 + _ ≤ _; omega) (by change 6 + _ + _ ≤ _; omega)
  change _ ≤ 6 + snapshot.active.length + _ at hbound
  have hc : c.items ≤ maxJsonItems := by omega
  have hactive : visit (.obj (activeFields snapshot)) 1 ⟨1, 0, 6⟩ = some c := by
    have hlength : (activeFields snapshot).length = snapshot.active.length :=
      List.length_map _
    rw [visit, if_neg (by decide)]
    simp only [hlength]
    rw [activeFields, hvisit, Option.bind_some, checkItems_ok hc]
  have hok : visit (.bool true) 1 c = checkItems c := rfl
  have hproto : visit (.int protocolVersion) 1 c = checkItems c := rfl
  have hrevision : visit (.int snapshot.stateRevision) 1 c = checkItems c := rfl
  have hschema : visit (.str periodicQuerySchema) 1 c = some c :=
    visit_str (by decide) (by decide) hc
  have htokenVisit : visit (.str snapshot.stateToken) 1 c = some c := by
    refine visit_str ?_ (by decide) hc
    rw [htoken, (token_plain hsha _).1]
    decide
  have hfields : visitFields (replyFieldsInOrder snapshot (.obj (activeFields snapshot))) 1
      ⟨1, 0, 6⟩ = some c := by
    rw [replyFieldsInOrder, visitFields_cons h₁, hactive, Option.bind_some, visitFields_cons h₂,
      hok, checkItems_ok hc, Option.bind_some, visitFields_cons h₃, hproto, checkItems_ok hc,
      Option.bind_some, visitFields_cons h₄, hschema, Option.bind_some, visitFields_cons h₅,
      hrevision, checkItems_ok hc, Option.bind_some, visitFields_cons h₆, htokenVisit]
    rfl
  refine ⟨c, ?_⟩
  rw [visit, if_neg (by decide)]
  change (visitFields _ 1 ⟨1, 0, 6⟩).bind checkItems = some c
  rw [hfields, Option.bind_some, checkItems_ok hc]

/-! ## The checks of the client -/

theorem validChannels_str {l : List String} (hcount : l.length ≤ 64)
    (h : ∀ c ∈ l, identifier c = true) (hascending : l.Pairwise (· < ·)) :
    validChannels (.arr (l.map Json.str)) = true := by
  have hnames : (l.map Json.str).mapM channelName = some l := by
    clear hcount hascending
    induction l with
    | nil => rfl
    | cons c l ih =>
        rw [List.map_cons, List.mapM_cons, channelName, if_pos (h c (List.mem_cons_self ..)),
          ih fun d hd => h d (List.mem_cons_of_mem _ hd)]
        rfl
  rw [validChannels, List.length_map, decide_eq_true hcount, hnames, Option.any_some,
    ascending_iff.mpr hascending]
  rfl

theorem validAlarm_entry {p : String × SnapshotEntry} (h : Stated p) :
    validAlarm (.obj (entryFields p.2)) = true := by
  have hkeys : hasKeys (entryFields p.2) alarmKeys = true := by
    have hfst : (entryFields p.2).map Prod.fst =
        ["acknowledged", "acknowledged_at", "channels", "level", "triggered_at"] := rfl
    rw [hasKeys, hfst]
    decide
  have hlevel : (entryFields p.2).lookup "level" = some (.str p.2.level) := rfl
  have htriggered : (entryFields p.2).lookup "triggered_at" = some (.float p.2.triggeredAt) := rfl
  have hchannels : (entryFields p.2).lookup "channels" =
      some (.arr (p.2.channels.map Json.str)) := rfl
  have hflag : (entryFields p.2).lookup "acknowledged" = some (.bool p.2.acknowledged) := rfl
  have htime : (entryFields p.2).lookup "acknowledged_at" =
      some (p.2.acknowledgedAt.elim .null Json.float) := rfl
  have hacknowledgement : validAcknowledgement (some (.bool p.2.acknowledged))
      (some (p.2.acknowledgedAt.elim .null Json.float)) = true := by
    cases hack : p.2.acknowledged with
    | true =>
        obtain ⟨x, hx, hvalid⟩ := h.acknowledged hack
        rw [hx]
        exact hvalid
    | false =>
        rw [h.unacknowledged hack]
        rfl
  rw [validAlarm, hkeys, hlevel, htriggered, hchannels, hflag, htime, hacknowledgement,
    Option.any_some, Option.any_some, h.triggeredAt,
    validChannels_str h.count h.channels h.ascending]
  simp only [decide_eq_true h.level]
  rfl

theorem validateAlarmActive_active (h : Answered sha256 snapshot) :
    validateAlarmActive (.obj (activeFields snapshot)) = true := by
  have hkeys : (activeFields snapshot).map Prod.fst = snapshot.active.map Prod.fst := by
    rw [activeFields, List.map_map]
    rfl
  have hlength : (activeFields snapshot).length ≤ 128 := by
    rw [activeFields, List.length_map]
    exact h.count
  have hids : (snapshot.active.map Prod.fst).all identifier = true := by
    refine List.all_eq_true.mpr fun k hk => ?_
    obtain ⟨p, hp, rfl⟩ := List.mem_map.mp hk
    exact (h.stated p hp).alarmId
  have halarms : (activeFields snapshot).all (fun p => validAlarm p.2) = true := by
    refine List.all_eq_true.mpr fun q hq => ?_
    obtain ⟨p, hp, rfl⟩ := List.mem_map.mp hq
    exact validAlarm_entry (h.stated p hp)
  rw [validateAlarmActive, hkeys, decide_eq_true hlength, hids, ascending_iff.mpr h.ascending,
    halarms]
  rfl

theorem hashText_token (hsha : IsDigest sha256) (b : ByteArray) :
    hashText ("sha256:" ++ sha256 b) = true := by
  obtain ⟨hlength, hhex⟩ := hsha b
  have hprefix : "sha256:".toList.length = 7 := rfl
  rw [hashText, String.toList_append, List.take_left' hprefix, List.drop_left' hprefix, hlength,
    List.all_eq_true.mpr hhex]
  rfl

theorem snapshotResult_reply (hsha : IsDigest sha256) (h : Answered sha256 snapshot)
    (hrevision : snapshot.stateRevision ≤ maxSequence) :
    snapshotResult sha256 (replyFieldsInOrder snapshot (.obj (activeFields snapshot))) =
      some (.accepted (.obj (activeFields snapshot)) snapshot.stateToken
        snapshot.stateRevision) := by
  obtain ⟨t, ht, _, htoken⟩ := h.token
  have hcanonical : jsonBytes (.obj (activeFields snapshot)) =
      some (String.ofList t).toUTF8 := by
    rw [jsonBytes, ← sorted_activeJson h, Json.dumps_sorted ht]
    rfl
  have htext : text snapshot.stateToken 71 = true := by
    have hsize := (token_plain hsha (String.ofList t).toUTF8).1
    rw [← htoken] at hsize
    have hne : snapshot.stateToken ≠ "" := by
      intro hempty
      rw [hempty] at hsize
      exact absurd hsize (by decide)
    rw [text, hsize, decide_eq_true hne]
    rfl
  have hhash : hashText snapshot.stateToken = true := by
    rw [htoken]
    exact hashText_token hsha _
  have hkeys : hasKeys (replyFieldsInOrder snapshot (.obj (activeFields snapshot)))
      ["ok", "proto", "schema", "state_revision", "state_token", "active"] = true := by
    have hfst : (replyFieldsInOrder snapshot (.obj (activeFields snapshot))).map Prod.fst =
        ["active", "ok", "proto", "schema", "state_revision", "state_token"] := rfl
    rw [hasKeys, hfst]
    decide
  have hlookups : (replyFieldsInOrder snapshot (.obj (activeFields snapshot))).lookup "proto" =
        some (.int protocolVersion) ∧
      (replyFieldsInOrder snapshot (.obj (activeFields snapshot))).lookup "schema" =
        some (.str periodicQuerySchema) ∧
      (replyFieldsInOrder snapshot (.obj (activeFields snapshot))).lookup "ok" =
        some (.bool true) ∧
      (replyFieldsInOrder snapshot (.obj (activeFields snapshot))).lookup "state_revision" =
        some (.int snapshot.stateRevision) ∧
      (replyFieldsInOrder snapshot (.obj (activeFields snapshot))).lookup "state_token" =
        some (.str snapshot.stateToken) ∧
      (replyFieldsInOrder snapshot (.obj (activeFields snapshot))).lookup "active" =
        some (.obj (activeFields snapshot)) := ⟨rfl, rfl, rfl, rfl, rfl, rfl⟩
  obtain ⟨hproto, hschema, hok, hrevisionField, htokenField, hactive⟩ := hlookups
  have hbounds : 0 ≤ (snapshot.stateRevision : ℤ) ∧ (snapshot.stateRevision : ℤ) ≤ maxSequence ∧
      text snapshot.stateToken 71 ∧ validateAlarmActive (.obj (activeFields snapshot)) :=
    ⟨Int.natCast_nonneg _, Int.ofNat_le.mpr hrevision, htext, validateAlarmActive_active h⟩
  rw [snapshotResult, hproto, hschema, hok]
  simp only [ne_eq, not_true_eq_false, or_self, if_false, Bool.true_eq_false]
  rw [if_pos hkeys, hrevisionField, htokenField, hactive]
  simp only
  rw [if_pos hbounds, hcanonical, Option.bind_some, if_pos ⟨hhash, htoken⟩, Int.toNat_natCast]

theorem strictHooks_faithful : strictHooks.Faithful where
  pairs _ hnodup := if_pos hnodup
  float _ hfinite := if_pos hfinite

theorem boundedJson_reply (hsha : IsDigest sha256) (h : Answered sha256 snapshot) {t : List Char}
    (ht : Json.dumps false (activeJson snapshot) = some t)
    (hsize : textBytes (replyText snapshot t) ≤ periodicQueryMaxBytes) :
    boundedJson (String.ofList (replyText snapshot t)).toUTF8 =
      some (replyFieldsInOrder snapshot (.obj (activeFields snapshot))) := by
  have hpos : 0 < textBytes (replyText snapshot t) := by
    rw [textBytes_replyText hsha h]
    omega
  have hloads : Json.loads strictHooks (replyText snapshot t) =
      some (.obj (replyFieldsInOrder snapshot (.obj (activeFields snapshot)))) := by
    rw [Json.loads_dumps strictHooks_faithful (distinct_envelope h) (dumps_envelope ht),
      sorted_envelope h]
  obtain ⟨c, hvisit⟩ := visit_reply hsha h
  rw [boundedJson, if_neg, fromUTF8?_toUTF8, Option.bind_some, String.toList_ofList, hloads,
    Option.bind_some, hvisit]
  · rfl
  · rintro (hzero | hlarge)
    · exact hpos.ne' hzero
    · exact absurd hsize (not_le.mpr hlarge)

theorem alarmSnapshot_reply (hsha : IsDigest sha256)
    (h : s.snapshotActiveCanonical sha256 = some snapshot)
    (hrevision : snapshot.stateRevision ≤ maxSequence) :
    ∃ wire, encodePeriodicCommandReply (snapshotReply snapshot) = some wire ∧
      alarmSnapshot sha256 wire =
        if wire.size ≤ maxSnapshotResponseBytes then
          .accepted (activeJson snapshot).sorted snapshot.stateToken snapshot.stateRevision
        else .failed "response_invalid" := by
  have hanswered := answered_of_snapshot h
  obtain ⟨t, ht, hsize, _⟩ := hanswered.token
  refine ⟨_, encodePeriodicCommandReply_eq hsha hanswered hrevision ht hsize, ?_⟩
  rw [alarmSnapshot]
  by_cases hwire : (String.ofList (replyText snapshot t)).toUTF8.size ≤ maxSnapshotResponseBytes
  · have hquery : textBytes (replyText snapshot t) ≤ periodicQueryMaxBytes :=
      hwire.trans (by decide)
    rw [if_neg (not_lt.mpr hwire), if_pos hwire, boundedJson_reply hsha hanswered ht hquery,
      Option.bind_some, snapshotResult_reply hsha hanswered hrevision, Option.getD_some,
      sorted_activeJson hanswered]
  · rw [if_pos (not_le.mp hwire), if_neg hwire]

/-! ## One state for one token -/

theorem strictHooks_strict : strictHooks.Strict where
  pairs l fields h := by
    simp only [strictHooks] at h
    split at h
    case isTrue hnodup =>
      cases h
      exact ⟨hnodup, fun _ hp => hp⟩
    case isFalse => cases h
  constant _ _ h := by cases h
  float x v h := by
    simp only [strictHooks] at h
    split at h
    case isTrue =>
      cases h
      exact .float x
    case isFalse => cases h

structure Accepted (sha256 : ByteArray → String) (raw : ByteArray) (active : Json)
    (stateToken : String) (stateRevision : ℕ) (fields : List (String × Json)) : Prop where
  read : boundedJson raw = some fields
  distinct : (Json.obj fields).Distinct
  keys : hasKeys fields ["ok", "proto", "schema", "state_revision", "state_token", "active"] = true
  proto : fields.lookup "proto" = some (.int protocolVersion)
  schema : fields.lookup "schema" = some (.str periodicQuerySchema)
  ok : fields.lookup "ok" = some (.bool true)
  revision : fields.lookup "state_revision" = some (.int stateRevision)
  token : fields.lookup "state_token" = some (.str stateToken)
  alarms : fields.lookup "active" = some active
  canonical : ∃ b, jsonBytes active = some b ∧ stateToken = "sha256:" ++ sha256 b

theorem snapshotResult_accepted {fields : List (String × Json)} {active : Json}
    {stateToken : String} {stateRevision : ℕ}
    (h : snapshotResult sha256 fields = some (.accepted active stateToken stateRevision)) :
    hasKeys fields ["ok", "proto", "schema", "state_revision", "state_token", "active"] = true ∧
      fields.lookup "proto" = some (.int protocolVersion) ∧
      fields.lookup "schema" = some (.str periodicQuerySchema) ∧
      fields.lookup "ok" = some (.bool true) ∧
      fields.lookup "state_revision" = some (.int stateRevision) ∧
      fields.lookup "state_token" = some (.str stateToken) ∧
      fields.lookup "active" = some active ∧
      ∃ b, jsonBytes active = some b ∧ stateToken = "sha256:" ++ sha256 b := by
  rw [snapshotResult] at h
  split at h
  case h_2 => cases h
  case h_1 proto schema ok hproto hschema hok =>
    split at h
    case isTrue => cases h
    case isFalse henvelope =>
      rw [not_or, not_not, not_not] at henvelope
      obtain ⟨rfl, rfl⟩ := henvelope
      split at h
      case isTrue =>
        -- a failure is no snapshot
        split at h
        case isFalse => cases h
        case isTrue =>
          split at h
          case h_2 => cases h
          case h_1 =>
            split at h
            · cases h
            · cases h
      case isFalse hfailed =>
        have hok' : ok = true := by
          cases ok with
          | true => rfl
          | false => exact absurd rfl hfailed
        subst hok'
        split at h
        case isFalse => cases h
        case isTrue hkeys =>
          split at h
          case h_2 => cases h
          case h_1 revision token active' hrevision htoken hactive =>
            split at h
            case isFalse => cases h
            case isTrue hbounds =>
              obtain ⟨b, hb, h⟩ := Option.bind_eq_some_iff.mp h
              split at h
              case isFalse => cases h
              case isTrue hauthority =>
                cases h
                have hback : ((revision.toNat : ℕ) : ℤ) = revision :=
                  Int.toNat_of_nonneg hbounds.1
                rw [hback]
                exact ⟨hkeys, hproto, hschema, hok, hrevision, htoken, hactive, b, hb,
                  hauthority.2⟩

theorem accepted_of_alarmSnapshot {raw : ByteArray} {active : Json} {stateToken : String}
    {stateRevision : ℕ}
    (h : alarmSnapshot sha256 raw = .accepted active stateToken stateRevision) :
    ∃ fields, Accepted sha256 raw active stateToken stateRevision fields := by
  rw [alarmSnapshot] at h
  split at h
  case isTrue => cases h
  case isFalse =>
    cases hresult : (boundedJson raw).bind (snapshotResult sha256) with
    | none =>
        rw [hresult] at h
        cases h
    | some result =>
        rw [hresult, Option.getD_some] at h
        subst h
        obtain ⟨fields, hread, hresult⟩ := Option.bind_eq_some_iff.mp hresult
        obtain ⟨hkeys, hproto, hschema, hok, hrevision, htoken, hactive, hcanonical⟩ :=
          snapshotResult_accepted hresult
        refine ⟨fields, hread, ?_, hkeys, hproto, hschema, hok, hrevision, htoken, hactive,
          hcanonical⟩
        rw [boundedJson] at hread
        split at hread
        case isTrue => cases hread
        case isFalse =>
          obtain ⟨t, _, hread⟩ := Option.bind_eq_some_iff.mp hread
          obtain ⟨parsed, hloads, hread⟩ := Option.bind_eq_some_iff.mp hread
          obtain ⟨_, _, hmapping⟩ := Option.bind_eq_some_iff.mp hread
          have hdistinct := Json.distinct_loads strictHooks_strict hloads
          cases parsed with
          | obj fields' =>
              cases hmapping
              exact hdistinct
          | null => cases hmapping
          | bool b => cases hmapping
          | int n => cases hmapping
          | float x => cases hmapping
          | str s => cases hmapping
          | arr items => cases hmapping

theorem Accepted.distinct_active {raw : ByteArray} {active : Json} {stateToken : String}
    {stateRevision : ℕ} {fields : List (String × Json)}
    (h : Accepted sha256 raw active stateToken stateRevision fields) : active.Distinct := by
  cases h.distinct with
  | obj hnodup hvalues =>
      exact hvalues ("active", active) ((Dict.lookup_eq_some_iff hnodup _ _).mp h.alarms)

/-- Two texts with the same digest. -/
def Collision (sha256 : ByteArray → String) (v w : Json) : Prop :=
  ∃ b c, jsonBytes v = some b ∧ jsonBytes w = some c ∧ b ≠ c ∧ sha256 b = sha256 c

theorem jsonBytes_inj {v w : Json} (hv : v.Distinct) (hw : w.Distinct) {b : ByteArray}
    (h : jsonBytes v = some b) (h' : jsonBytes w = some b) : v.Same w := by
  obtain ⟨t, ht, hb⟩ := Option.map_eq_some_iff.mp h
  obtain ⟨u, hu, hb'⟩ := Option.map_eq_some_iff.mp h'
  have hstring : String.ofList t = String.ofList u := by
    apply String.toByteArray_inj.mp
    exact hb.trans hb'.symm
  have htext : t = u := by
    rw [← String.toList_ofList (l := t), hstring, String.toList_ofList]
  exact Json.same_of_dumps hv hw ht (htext ▸ hu)

/-- Under the token of a snapshot the client accepts its alarms alone, unless two texts collide. -/
theorem Accepted.same {raw : ByteArray} {active : Json} {stateRevision : ℕ}
    {fields : List (String × Json)} (h : Answered sha256 snapshot)
    (haccepted : Accepted sha256 raw active snapshot.stateToken stateRevision fields) :
    Collision sha256 active (activeJson snapshot) ∨ active.Same (activeJson snapshot) := by
  obtain ⟨b, hb, htoken⟩ := haccepted.canonical
  obtain ⟨t, ht, _, htoken'⟩ := h.token
  have hc : jsonBytes (activeJson snapshot) = some (String.ofList t).toUTF8 := by
    rw [jsonBytes, ht]
    rfl
  have hdigest : sha256 b = sha256 (String.ofList t).toUTF8 := by
    have hlists := congrArg String.toList (htoken.symm.trans htoken')
    rw [String.toList_append, String.toList_append] at hlists
    exact String.ext_iff.mpr (List.append_cancel_left hlists)
  by_cases hbytes : b = (String.ofList t).toUTF8
  · exact .inr (jsonBytes_inj haccepted.distinct_active (distinct_activeJson h)
      (hbytes ▸ hb) hc)
  · exact .inl ⟨b, _, hb, hc, hbytes, hdigest⟩

theorem Accepted.same_envelope {raw : ByteArray} {active : Json}
    {fields : List (String × Json)} (h : Answered sha256 snapshot)
    (haccepted : Accepted sha256 raw active snapshot.stateToken snapshot.stateRevision fields)
    (hsame : active.Same (activeJson snapshot)) :
    (Json.obj fields).Same (.obj (envelope (snapshotReply snapshot))) := by
  have hnodup : (fields.map Prod.fst).Nodup := by
    cases haccepted.distinct with
    | obj hnodup _ => exact hnodup
  have henvelope : ((envelope (snapshotReply snapshot)).map Prod.fst).Nodup := by
    cases distinct_envelope h with
    | obj hnodup _ => exact hnodup
  have hkeys := haccepted.keys
  rw [hasKeys, Bool.and_eq_true] at hkeys
  refine Json.same_obj hnodup henvelope fun k => ?_
  rw [envelope_snapshotReply]
  by_cases hk : k ∈ ["ok", "proto", "schema", "state_revision", "state_token", "active"]
  · simp only [List.mem_cons, List.not_mem_nil, or_false] at hk
    rcases hk with rfl | rfl | rfl | rfl | rfl | rfl
    · rw [haccepted.ok]
      rfl
    · rw [haccepted.proto]
      rfl
    · rw [haccepted.schema]
      rfl
    · rw [haccepted.revision]
      rfl
    · rw [haccepted.token]
      rfl
    · rw [haccepted.alarms]
      exact congrArg some hsame
  · have hnone : fields.lookup k = none := by
      cases hlookup : fields.lookup k with
      | none => rfl
      | some v =>
          have hmem := List.mem_map_of_mem (f := Prod.fst)
            ((Dict.lookup_eq_some_iff hnodup k v).mp hlookup)
          exact absurd (of_decide_eq_true (List.all_eq_true.mp hkeys.2 k hmem)) hk
    have hnone' : (snapshotReply snapshot ++ [("proto", Json.int protocolVersion)]).lookup k =
        none := by
      simp only [List.mem_cons, List.not_mem_nil, or_false, not_or] at hk
      simp [snapshotReply, Dict.lookup_cons_ite, hk]
    rw [hnone, hnone']

/-! ## The answer to the query -/

theorem envelope_failure : envelope (failureReply "snapshot_unavailable") =
    failureReply "snapshot_unavailable" ++ [("proto", .int protocolVersion)] := by
  simp [envelope, failureReply, Json.insertField]

theorem dumps_failure : ∃ t, Json.dumps false
    (.obj (envelope (failureReply "snapshot_unavailable"))) = some t ∧ textBytes t = 95 := by
  have hproto : (protocolVersion : ℤ).repr.toList = ['2'] := rfl
  refine ⟨'\x7b' :: Json.commas ([("error_code", Json.stringText false "snapshot_unavailable"),
    ("ok", ['f', 'a', 'l', 's', 'e']), ("proto", ['2']),
    ("schema", Json.stringText false periodicQuerySchema)].map (Json.fieldText false)) ++ ['\x7d'],
    ?_, ?_⟩
  · rw [envelope_failure]
    simp [failureReply, Json.dumps, Json.dumpsFields, hproto, Json.sortFields]
  · have hcode : textBytes (Json.stringText false "error_code") = 12 := textBytes_plain (by decide)
    have hvalue : textBytes (Json.stringText false "snapshot_unavailable") = 22 :=
      textBytes_plain (by decide)
    have hok : textBytes (Json.stringText false "ok") = 4 := textBytes_plain (by decide)
    have hprotoKey : textBytes (Json.stringText false "proto") = 7 := textBytes_plain (by decide)
    have hschema : textBytes (Json.stringText false "schema") = 8 := textBytes_plain (by decide)
    have hquery : textBytes (Json.stringText false periodicQuerySchema) = 27 :=
      textBytes_plain (by decide)
    have hwords : textBytes ['f', 'a', 'l', 's', 'e'] = 5 ∧ textBytes ['2'] = 1 := ⟨rfl, rfl⟩
    have hbrace : '\x7b'.utf8Size = 1 ∧ '\x7d'.utf8Size = 1 := ⟨rfl, rfl⟩
    rw [textBytes_append, textBytes_cons, textBytes_cons, textBytes_commas, textBytes_nil,
      hbrace.1, hbrace.2]
    simp only [List.map_cons, List.map_nil, List.sum_cons, List.sum_nil, List.length_cons,
      List.length_nil, textBytes_fieldText, hcode, hvalue, hok, hprotoKey, hschema, hquery,
      hwords.1, hwords.2]
    rfl

theorem alarmSnapshot_failure (sha256 : ByteArray → String) :
    ∃ wire, encodePeriodicCommandReply (failureReply "snapshot_unavailable") = some wire ∧
      alarmSnapshot sha256 wire = .failed "snapshot_unavailable" := by
  have hvalid : validateCommandReplyStructure (envelope (failureReply "snapshot_unavailable")) =
      true := by
    rw [envelope_failure]
    decide
  obtain ⟨t, ht, hbytes⟩ := dumps_failure
  have hpos : 0 < textBytes t := by
    rw [hbytes]
    decide
  have hsize : textBytes t ≤ maxSnapshotResponseBytes := by
    rw [hbytes]
    decide
  have hwire : (String.ofList t).toUTF8.size ≤ maxSnapshotResponseBytes := hsize
  have hreply : (String.ofList t).toUTF8.size ≤ maxCommandReplySize := hwire.trans (by decide)
  have hquery : textBytes t ≤ periodicQueryMaxBytes := hsize.trans (by decide)
  have hdistinct : (Json.obj (envelope (failureReply "snapshot_unavailable"))).Distinct := by
    rw [envelope_failure]
    refine .obj (by simp [failureReply]) fun p hp => ?_
    simp only [failureReply, List.cons_append, List.nil_append, List.mem_cons, List.not_mem_nil,
      or_false] at hp
    rcases hp with rfl | rfl | rfl | rfl
    · exact .bool _
    · exact .str _
    · exact .str _
    · exact .int _
  have hsorted : (Json.obj (envelope (failureReply "snapshot_unavailable"))).sorted =
      .obj [("error_code", .str "snapshot_unavailable"), ("ok", .bool false),
        ("proto", .int protocolVersion), ("schema", .str periodicQuerySchema)] := by
    rw [envelope_failure]
    simp [failureReply, Json.sorted, Json.sortedFields, Json.sortFields]
  have hloads := Json.loads_dumps strictHooks_faithful hdistinct ht
  rw [hsorted] at hloads
  have hread : boundedJson (String.ofList t).toUTF8 =
      some [("error_code", .str "snapshot_unavailable"), ("ok", .bool false),
        ("proto", .int protocolVersion), ("schema", .str periodicQuerySchema)] := by
    rw [boundedJson, if_neg, fromUTF8?_toUTF8, Option.bind_some, String.toList_ofList, hloads]
    · rfl
    · rintro (hzero | hlarge)
      · exact hpos.ne' hzero
      · exact absurd hquery (not_le.mpr hlarge)
  refine ⟨(String.ofList t).toUTF8, ?_, ?_⟩
  · rw [encodePeriodicCommandReply, if_pos hvalid, jsonBytes, ht, Option.map_some,
      Option.bind_some, if_neg (not_lt.mpr hreply)]
  · rw [alarmSnapshot, if_neg (not_lt.mpr hwire), hread]
    rfl

/-- The reply of a snapshot is accepted as it is when its bytes are within the client's bound, the
engine answers `snapshot_unavailable` in place of the others, and under a snapshot's token the
client accepts its alarms and, with its revision, its reply alone. -/
theorem snapshot_accepted (hsha : IsDigest sha256)
    (h : s.snapshotActiveCanonical sha256 = some snapshot)
    (hrevision : snapshot.stateRevision ≤ maxSequence) :
    (∃ wire sent, encodePeriodicCommandReply (snapshotReply snapshot) = some wire ∧
      periodicSnapshotResponse sha256 s = some sent ∧
      if wire.size ≤ maxSnapshotResponseBytes then
        sent = wire ∧ alarmSnapshot sha256 wire =
          .accepted (activeJson snapshot).sorted snapshot.stateToken snapshot.stateRevision
      else alarmSnapshot sha256 wire = .failed "response_invalid" ∧
        alarmSnapshot sha256 sent = .failed "snapshot_unavailable") ∧
    ∀ raw active stateRevision,
      alarmSnapshot sha256 raw = .accepted active snapshot.stateToken stateRevision →
      Collision sha256 active (activeJson snapshot) ∨
        active.Same (activeJson snapshot) ∧
          (stateRevision = snapshot.stateRevision → ∃ fields, boundedJson raw = some fields ∧
            (Json.obj fields).Same (.obj (envelope (snapshotReply snapshot)))) := by
  have hanswered := answered_of_snapshot h
  constructor
  · obtain ⟨wire, hwire, haccepted⟩ := alarmSnapshot_reply hsha h hrevision
    obtain ⟨failure, hfailure, hrefused⟩ := alarmSnapshot_failure sha256
    have hresponse : periodicSnapshotResponse sha256 s =
        if 60 * 1024 < wire.size then some failure else some wire := by
      rw [periodicSnapshotResponse, h, Option.bind_some, hwire]
      simp only [hfailure]
    by_cases hsize : wire.size ≤ maxSnapshotResponseBytes
    · rw [if_pos hsize] at haccepted
      refine ⟨wire, wire, hwire, hresponse.trans (if_neg (not_lt.mpr hsize)), ?_⟩
      rw [if_pos hsize]
      exact ⟨rfl, haccepted⟩
    · rw [if_neg hsize] at haccepted
      refine ⟨wire, failure, hwire, hresponse.trans (if_pos (not_le.mp hsize)), ?_⟩
      rw [if_neg hsize]
      exact ⟨haccepted, hrefused⟩
  · intro raw active stateRevision hraw
    obtain ⟨fields, haccepted⟩ := accepted_of_alarmSnapshot hraw
    rcases haccepted.same hanswered with hcollision | hsame
    · exact .inl hcollision
    · refine .inr ⟨hsame, ?_⟩
      rintro rfl
      exact ⟨fields, haccepted.read, haccepted.same_envelope hanswered hsame⟩

/-- A manager with one alarm that an operator has seen. -/
def bench : AlarmStateManager where
  active := ⟨[("T1_high",
    { alarmId := "T1_high", level := "WARNING", message := "", triggeredAt := 1.5,
      channels := ["T1"], values := Dict.empty, acknowledged := true, acknowledgedAt := 2.5 })],
    by decide⟩
  sustainedSince := Dict.empty
  stateRevision := 2
  activationSequence := 1
  history := []

def benchDigest : ByteArray → String := fun _ =>
  "c3a9f0582c6bdda79c451fc9c13cf155856e1a3dbad740c93f5e99768f5be8c9"

def benchSnapshot : AlarmCanonicalSnapshot where
  stateRevision := 2
  active := [("T1_high", ⟨"WARNING", 1.5, ["T1"], true, some 2.5⟩)]
  stateToken := "sha256:c3a9f0582c6bdda79c451fc9c13cf155856e1a3dbad740c93f5e99768f5be8c9"

theorem bench_snapshot : bench.snapshotActiveCanonical benchDigest = some benchSnapshot := by
  decide +kernel

theorem benchDigest_isDigest : IsDigest benchDigest :=
  isDigest_const (by decide) (by decide)

theorem snapshot_accepted_bench :
    (∃ wire sent, encodePeriodicCommandReply (snapshotReply benchSnapshot) = some wire ∧
      periodicSnapshotResponse benchDigest bench = some sent ∧
      if wire.size ≤ maxSnapshotResponseBytes then
        sent = wire ∧ alarmSnapshot benchDigest wire =
          .accepted (activeJson benchSnapshot).sorted benchSnapshot.stateToken
            benchSnapshot.stateRevision
      else alarmSnapshot benchDigest wire = .failed "response_invalid" ∧
        alarmSnapshot benchDigest sent = .failed "snapshot_unavailable") ∧
    ∀ raw active stateRevision,
      alarmSnapshot benchDigest raw = .accepted active benchSnapshot.stateToken stateRevision →
      Collision benchDigest active (activeJson benchSnapshot) ∨
        active.Same (activeJson benchSnapshot) ∧
          (stateRevision = benchSnapshot.stateRevision → ∃ fields, boundedJson raw = some fields ∧
            (Json.obj fields).Same (.obj (envelope (snapshotReply benchSnapshot)))) :=
  snapshot_accepted benchDigest_isDigest bench_snapshot (by decide)

end AlarmQuery
end Periodic
end CryoDaq
