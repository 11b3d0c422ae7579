import CryoDaq.Channels.Identity
import Mathlib.Data.List.Induction

/-!
# Runs of the identity store

**Calls.**  A run is any sequence of `ingest`, `invalidate_transport` and of the
two calls that show an entry.

**Earned.**  `Earned` says which call of a run gave a channel its standing: the
last one that said anything about the channel, and it vouched for what is stored.

**Kept.**  `identity_earned_and_kept` puts the facts about all runs together.
-/

namespace CryoDaq
namespace Channels

open ObjectGraph

variable {p : Platform}

inductive Call (p : Platform)
  | ingest (q : QualifiedReading p)
  | invalidateTransport
  | view (channel : CodePoints)
  | presentationDescriptor (channel : CodePoints)

namespace DescriptorStore

def stateOf {α : Type} (s : DescriptorStore p) :
    Except ViewFault (DescriptorStore p × α) → DescriptorStore p
  | .ok r => r.1
  | .error _ => s

def after (s : DescriptorStore p) : Call p → DescriptorStore p
  | .ingest q => (s.ingest q).1
  | .invalidateTransport => s.invalidateTransport
  | .view channel => s.stateOf (s.view channel)
  | .presentationDescriptor channel => s.stateOf (s.presentationDescriptor channel)

def run (s : DescriptorStore p) (calls : List (Call p)) : DescriptorStore p :=
  calls.foldl after s

def stored (s : DescriptorStore p) (channel : CodePoints) : Option (ChannelDescriptorV1 p) :=
  (s.entries.get? channel).bind fun e => e.descriptor

/-- Every entry can be shown, and there are not too many. -/
structure Sound (s : DescriptorStore p) : Prop where
  presentable : ∀ channel e, s.entries.get? channel = some e → e.Presentable
  bounded : s.entries.entries.length ≤ s.maxEntries.val

@[simp] theorem get?_put (s : DescriptorStore p) (channel other : CodePoints) (e : Entry p) :
    (s.put channel e).entries.get? other =
      if other = channel then some e else s.entries.get? other :=
  Dict.get?_set s.entries channel other e

def entryOf (s : DescriptorStore p) (channel : CodePoints) : Entry p :=
  (s.entries.get? channel).getD (Entry.new p)

theorem ingest_cases (s : DescriptorStore p) (q : QualifiedReading p) :
    (s.ingest q = (s, .capacityExhausted) ∧ s.entries.get? q.reading.channel = none) ∨
      (s.ingest q = (s.put q.reading.channel ((s.entryOf q.reading.channel).receive q).1,
          ((s.entryOf q.reading.channel).receive q).2) ∧
        (s.entries.get? q.reading.channel = none →
          s.entries.entries.length < s.maxEntries.val)) := by
  unfold ingest entryOf
  cases hentry : s.entries.get? q.reading.channel with
  | some e => exact .inr ⟨rfl, fun h => absurd h (Option.some_ne_none e)⟩
  | none =>
      by_cases hfull : s.maxEntries.val ≤ s.entries.entries.length
      · exact .inl ⟨if_pos hfull, rfl⟩
      · exact .inr ⟨if_neg hfull, fun _ => not_le.mp hfull⟩

theorem Sound.entryOf {s : DescriptorStore p} (h : s.Sound) (channel : CodePoints) :
    (s.entryOf channel).Sound := by
  unfold DescriptorStore.entryOf
  cases hentry : s.entries.get? channel with
  | some e => exact (h.presentable channel e hentry).sound
  | none => exact Entry.sound_new

theorem Sound.put {s : DescriptorStore p} (h : s.Sound) {channel : CodePoints} {e : Entry p}
    (he : e.Presentable)
    (hroom : s.entries.get? channel = none → s.entries.entries.length < s.maxEntries.val) :
    (s.put channel e).Sound := by
  constructor
  · intro other e' he'
    rw [get?_put] at he'
    by_cases hother : other = channel
    · rw [if_pos hother] at he'
      cases he'
      exact he
    · rw [if_neg hother] at he'
      exact h.presentable other e' he'
  · have hlength := Dict.length_set s.entries channel e
    cases hentry : s.entries.get? channel with
    | some e' =>
        rw [hentry] at hlength
        exact hlength.trans_le h.bounded
    | none =>
        rw [hentry] at hlength
        exact hlength.trans_le (hroom hentry)

theorem Sound.ingest {s : DescriptorStore p} (h : s.Sound) (q : QualifiedReading p) :
    (s.ingest q).1.Sound := by
  rcases s.ingest_cases q with ⟨hfull, _⟩ | ⟨hreceived, hroom⟩
  · rw [hfull]
    exact h
  · rw [hreceived]
    exact h.put (Entry.receive_presentable (h.entryOf _) q) hroom

theorem Sound.invalidateTransport {s : DescriptorStore p} (h : s.Sound) :
    s.invalidateTransport.Sound := by
  constructor
  · intro channel e he
    simp only [DescriptorStore.invalidateTransport, Dict.get?_mapValues,
      Option.map_eq_some_iff] at he
    obtain ⟨e', he', rfl⟩ := he
    have hshown := h.presentable channel e' he'
    exact ⟨Option.some_ne_none _, hshown.shown, hshown.diagnostics⟩
  · simp only [DescriptorStore.invalidateTransport, Dict.mapValues, List.length_map]
    exact h.bounded

/-- Showing a channel changes nothing but a cache. -/
structure Shows (s s' : DescriptorStore p) : Prop where
  sound : s'.Sound
  maxEntries : s'.maxEntries = s.maxEntries
  entries : ∀ channel e', s'.entries.get? channel = some e' →
    ∃ e, s.entries.get? channel = some e ∧ e'.descriptor = e.descriptor ∧
      e'.identityStatus = e.identityStatus
  stored : ∀ channel, s'.stored channel = s.stored channel

theorem Sound.shows_self {s : DescriptorStore p} (h : s.Sound) : Shows s s :=
  ⟨h, rfl, fun _ e' he' => ⟨e', he', rfl, rfl⟩, fun _ => rfl⟩

theorem Sound.shows_put {s : DescriptorStore p} (h : s.Sound) {channel : CodePoints}
    {e : Entry p} (he : s.entries.get? channel = some e)
    (cache : Option (ChannelDescriptorV1 p)) :
    Shows s (s.put channel { e with legacyCache := cache }) := by
  have hshown := h.presentable channel e he
  refine ⟨h.put ⟨hshown.status, hshown.shown, hshown.diagnostics⟩
    fun hnone => absurd (hnone.symm.trans he).symm (Option.some_ne_none e), rfl, ?_, ?_⟩
  · intro other e' he'
    rw [get?_put] at he'
    by_cases hother : other = channel
    · rw [if_pos hother] at he'
      cases he'
      exact ⟨e, hother ▸ he, rfl, rfl⟩
    · rw [if_neg hother] at he'
      exact ⟨e', he', rfl, rfl⟩
  · intro other
    unfold stored
    rw [get?_put]
    by_cases hother : other = channel
    · rw [if_pos hother, hother, he]
      rfl
    · rw [if_neg hother]

theorem Sound.presentationDescriptor_ok {s : DescriptorStore p} (h : s.Sound)
    {channel : CodePoints} {e : Entry p} (he : s.entries.get? channel = some e) :
    ∃ s' d, s.presentationDescriptor channel = .ok (s', some d) ∧ Shows s s' := by
  obtain ⟨cache, d, hshown, _⟩ := Entry.presentationDescriptor_ok (h.presentable channel e he)
  refine ⟨_, d, ?_, h.shows_put he cache⟩
  simp only [presentationDescriptor, he, hshown]

theorem Sound.view_ok {s : DescriptorStore p} (h : s.Sound) {channel : CodePoints}
    {e : Entry p} (he : s.entries.get? channel = some e) :
    ∃ s' v, s.view channel = .ok (s', some v) ∧ Shows s s' := by
  have hpresentable := h.presentable channel e he
  obtain ⟨cache, d, hshown, _⟩ := Entry.presentationDescriptor_ok hpresentable
  obtain ⟨status, hstatus⟩ := Option.ne_none_iff_exists'.mp hpresentable.status
  refine ⟨_, ⟨channel, d, status, e.transportState, e.diagnostics⟩, ?_, h.shows_put he cache⟩
  simp only [view, he, hstatus, hshown]

theorem Sound.shows_presentationDescriptor {s : DescriptorStore p} (h : s.Sound)
    (channel : CodePoints) : Shows s (s.after (.presentationDescriptor channel)) := by
  cases he : s.entries.get? channel with
  | none =>
      simp only [after, presentationDescriptor, he]
      exact h.shows_self
  | some e =>
      obtain ⟨s', d, hok, hshows⟩ := h.presentationDescriptor_ok he
      simp only [after, hok]
      exact hshows

theorem Sound.shows_view {s : DescriptorStore p} (h : s.Sound) (channel : CodePoints) :
    Shows s (s.after (.view channel)) := by
  cases he : s.entries.get? channel with
  | none =>
      simp only [after, view, he]
      exact h.shows_self
  | some e =>
      obtain ⟨s', v, hok, hshows⟩ := h.view_ok he
      simp only [after, hok]
      exact hshows

theorem Sound.after {s : DescriptorStore p} (h : s.Sound) (c : Call p) : (s.after c).Sound := by
  cases c with
  | ingest q => exact h.ingest q
  | invalidateTransport => exact h.invalidateTransport
  | view channel => exact (h.shows_view channel).sound
  | presentationDescriptor channel => exact (h.shows_presentationDescriptor channel).sound

theorem Sound.run {s : DescriptorStore p} (h : s.Sound) (calls : List (Call p)) :
    (s.run calls).Sound := by
  induction calls generalizing s with
  | nil => exact h
  | cons c rest ih => exact ih (h.after c)

theorem sound_init (maxEntries : MaxEntries) : (init p maxEntries).Sound :=
  ⟨fun _ _ h => absurd h.symm (Option.some_ne_none _), Nat.zero_le _⟩

theorem Sound.run_maxEntries {s : DescriptorStore p} (h : s.Sound) (calls : List (Call p)) :
    (s.run calls).maxEntries = s.maxEntries := by
  induction calls generalizing s with
  | nil => rfl
  | cons c rest ih =>
      refine (ih (h.after c)).trans ?_
      cases c with
      | ingest q =>
          rcases s.ingest_cases q with ⟨hfull, _⟩ | ⟨hreceived, _⟩
          · rw [DescriptorStore.after, hfull]
          · rw [DescriptorStore.after, hreceived]
            rfl
      | invalidateTransport => rfl
      | view channel => exact (h.shows_view channel).maxEntries
      | presentationDescriptor channel => exact (h.shows_presentationDescriptor channel).maxEntries

/-! ## What is stored -/

theorem stored_put (s : DescriptorStore p) (channel other : CodePoints) (e : Entry p) :
    (s.put channel e).stored other = if other = channel then e.descriptor else s.stored other := by
  unfold stored
  rw [get?_put]
  by_cases h : other = channel
  · rw [if_pos h, if_pos h]
    rfl
  · rw [if_neg h, if_neg h]

theorem entryOf_descriptor (s : DescriptorStore p) (channel : CodePoints) :
    (s.entryOf channel).descriptor = s.stored channel := by
  unfold entryOf stored
  cases s.entries.get? channel with
  | none => rfl
  | some e => rfl

theorem ingest_stored (s : DescriptorStore p) (q : QualifiedReading p)
    (h : (s.ingest q).2 ≠ .accepted) (channel : CodePoints) :
    (s.ingest q).1.stored channel = s.stored channel := by
  rcases s.ingest_cases q with ⟨hfull, _⟩ | ⟨hreceived, _⟩
  · rw [hfull]
  · rw [hreceived] at h ⊢
    rw [stored_put]
    by_cases hchannel : channel = q.reading.channel
    · rw [if_pos hchannel, hchannel, ← entryOf_descriptor]
      rcases receive_cases (s.entryOf q.reading.channel) q with hr | ⟨d, kept, hr⟩ | hr
      · exact hr.descriptor
      · exact absurd hr.result h
      · exact hr.descriptor
    · rw [if_neg hchannel]

theorem ingest_keeps (s : DescriptorStore p) (q : QualifiedReading p) (channel : CodePoints) :
    Keeps (s.stored channel) ((s.ingest q).1.stored channel) := by
  rcases s.ingest_cases q with ⟨hfull, _⟩ | ⟨hreceived, _⟩
  · rw [hfull]
    exact .refl _
  · rw [hreceived, stored_put]
    by_cases hchannel : channel = q.reading.channel
    · rw [if_pos hchannel, hchannel, ← entryOf_descriptor]
      exact receive_keeps _ q
    · rw [if_neg hchannel]
      exact .refl _

theorem invalidateTransport_stored (s : DescriptorStore p) (channel : CodePoints) :
    s.invalidateTransport.stored channel = s.stored channel := by
  simp only [stored, invalidateTransport, Dict.get?_mapValues]
  cases s.entries.get? channel with
  | none => rfl
  | some e => rfl

theorem Sound.after_keeps {s : DescriptorStore p} (h : s.Sound) (c : Call p)
    (channel : CodePoints) : Keeps (s.stored channel) ((s.after c).stored channel) := by
  cases c with
  | ingest q => exact s.ingest_keeps q channel
  | invalidateTransport =>
      have hsame := s.invalidateTransport_stored channel
      rw [DescriptorStore.after, hsame]
      exact .refl _
  | view other =>
      rw [(h.shows_view other).stored]
      exact .refl _
  | presentationDescriptor other =>
      rw [(h.shows_presentationDescriptor other).stored]
      exact .refl _

theorem Sound.run_keeps {s : DescriptorStore p} (h : s.Sound) (calls : List (Call p))
    (channel : CodePoints) : Keeps (s.stored channel) ((s.run calls).stored channel) := by
  induction calls generalizing s with
  | nil => exact .refl _
  | cons c rest ih =>
      intro d hd
      obtain ⟨d', hd', hfirst⟩ := h.after_keeps c channel d hd
      obtain ⟨d'', hd'', hrest⟩ := ih (h.after c) d' hd'
      exact ⟨d'', hd'', hfirst.trans hrest⟩

end DescriptorStore

/-- The call says something about the standing of a channel. -/
def Call.Speaks (channel : CodePoints) : Call p → Prop
  | .ingest q => q.reading.channel = channel ∧ q.Speaks
  | .invalidateTransport => True
  | _ => False

/-- The call brings a descriptor that vouches for what an entry stores. -/
def Call.VouchesFor (channel : CodePoints) (e : Entry p) (c : Call p) : Prop :=
  ∃ q d kept, c = .ingest q ∧ q.reading.channel = channel ∧ q.Vouches d ∧
    e.descriptor = some kept ∧ kept.canonicalJson = d.canonicalJson

/-- The last call that said anything about the channel vouched for what is stored. -/
def Earned (calls : List (Call p)) (channel : CodePoints) (e : Entry p) : Prop :=
  ∃ earlier c later, calls = earlier ++ c :: later ∧ c.VouchesFor channel e ∧
    ∀ c' ∈ later, ¬ c'.Speaks channel

namespace DescriptorStore

def Authoritative (s : DescriptorStore p) (channel : CodePoints) (e : Entry p) : Prop :=
  s.entries.get? channel = some e ∧ e.identityStatus = some .authoritative

/-- Standing that the call did not give was there before. -/
def Inherited (s : DescriptorStore p) (channel : CodePoints) (e : Entry p) : Prop :=
  ∃ e', s.Authoritative channel e' ∧ e.descriptor = e'.descriptor

theorem get?_of_status {s : DescriptorStore p} {channel : CodePoints} {status : IdentityStatus}
    (h : (s.entryOf channel).identityStatus = some status) :
    s.entries.get? channel = some (s.entryOf channel) := by
  unfold entryOf at h ⊢
  cases hentry : s.entries.get? channel with
  | none =>
      rw [hentry] at h
      cases h
  | some e => rfl

/-- A channel is authoritative after a reading when the reading vouched for it, or said
nothing about it and it was authoritative before. -/
theorem ingest_authoritative {s : DescriptorStore p} {q : QualifiedReading p}
    {channel : CodePoints} {e : Entry p} (h : (s.ingest q).1.Authoritative channel e) :
    (Call.ingest q).VouchesFor channel e ∨
      ¬ (Call.ingest q).Speaks channel ∧ s.Inherited channel e := by
  rcases s.ingest_cases q with ⟨hfull, hnone⟩ | ⟨hreceived, _⟩
  · rw [hfull] at h
    refine .inr ⟨?_, e, h, rfl⟩
    rintro ⟨hchannel, _⟩
    rw [hchannel] at hnone
    exact absurd (hnone.symm.trans h.1).symm (Option.some_ne_none e)
  · rw [hreceived] at h
    obtain ⟨hentry, hstatus⟩ := h
    rw [get?_put] at hentry
    by_cases hchannel : channel = q.reading.channel
    · rw [if_pos hchannel] at hentry
      cases hentry
      rcases receive_cases (s.entryOf q.reading.channel) q with hr | ⟨d, kept, hr⟩ | hr
      · rw [hr.status] at hstatus
        cases hstatus
      · exact .inl ⟨q, d, kept, rfl, hchannel.symm, hr.vouches, hr.descriptor, hr.content⟩
      · have hbefore : (s.entryOf q.reading.channel).identityStatus = some .authoritative := by
          rcases hr.status with hsame | habsent
          · rw [← hsame, hstatus]
          · rw [habsent] at hstatus
            cases hstatus
        rw [hchannel]
        exact .inr ⟨fun hspeaks => hr.silent hspeaks.2, s.entryOf q.reading.channel,
          ⟨get?_of_status hbefore, hbefore⟩, hr.descriptor⟩
    · rw [if_neg hchannel] at hentry
      exact .inr ⟨fun hspeaks => hchannel hspeaks.1.symm, e, ⟨hentry, hstatus⟩, rfl⟩

theorem Sound.after_authoritative {s : DescriptorStore p} (h : s.Sound) {c : Call p}
    {channel : CodePoints} {e : Entry p} (he : (s.after c).Authoritative channel e) :
    c.VouchesFor channel e ∨ ¬ c.Speaks channel ∧ s.Inherited channel e := by
  have hshows : ∀ {s' : DescriptorStore p}, Shows s s' → s'.Authoritative channel e →
      s.Inherited channel e := by
    intro s' hs he'
    obtain ⟨e₀, he₀, hdescriptor, hstatus⟩ := hs.entries channel e he'.1
    exact ⟨e₀, ⟨he₀, hstatus ▸ he'.2⟩, hdescriptor⟩
  cases c with
  | ingest q => exact ingest_authoritative he
  | invalidateTransport =>
      obtain ⟨hentry, hstatus⟩ := he
      simp only [DescriptorStore.after, DescriptorStore.invalidateTransport, Dict.get?_mapValues,
        Option.map_eq_some_iff] at hentry
      obtain ⟨e', _, rfl⟩ := hentry
      cases hstatus
  | view other => exact .inr ⟨not_false, hshows (h.shows_view other) he⟩
  | presentationDescriptor other =>
      exact .inr ⟨not_false, hshows (h.shows_presentationDescriptor other) he⟩

theorem earned (maxEntries : MaxEntries) (calls : List (Call p)) {channel : CodePoints}
    {e : Entry p} (h : ((init p maxEntries).run calls).Authoritative channel e) :
    Earned calls channel e := by
  induction calls using List.reverseRecOn generalizing e with
  | nil => exact absurd h.1.symm (Option.some_ne_none e)
  | append_singleton calls c ih =>
      have hsound := (sound_init maxEntries).run calls
      rw [run, List.foldl_concat] at h
      rcases hsound.after_authoritative h with hvouches | ⟨hsilent, e', he', hdescriptor⟩
      · refine ⟨calls, c, [], rfl, hvouches, ?_⟩
        exact fun _ hc => absurd hc List.not_mem_nil
      · obtain ⟨earlier, c', later, rfl, hvouches, hlater⟩ := ih he'
        refine ⟨earlier, c', later ++ [c], by rw [List.append_assoc, List.cons_append], ?_, ?_⟩
        · obtain ⟨q, d, kept, hc, hchannel, hq, hkept, hcontent⟩ := hvouches
          exact ⟨q, d, kept, hc, hchannel, hq, hdescriptor.trans hkept, hcontent⟩
        · intro c'' hc''
          rcases List.mem_append.mp hc'' with hin | hlast
          · exact hlater c'' hin
          · rw [List.mem_singleton.mp hlast]
            exact hsilent

/-- Identity on the console is earned and kept: authority goes back to the last item that
said anything about the channel, which brought a matching descriptor with the stored
content; a reading without a descriptor restores nothing; a stored descriptor is only
succeeded by later revisions of the same identity, and changed by no item that is refused;
the store stays within its bounds; and every known channel can be shown. -/
theorem identity_earned_and_kept (p : Platform) (maxEntries : MaxEntries)
    (calls : List (Call p)) :
    (∀ channel e, ((init p maxEntries).run calls).Authoritative channel e →
      Earned calls channel e) ∧
    (∀ q channel e, q.descriptor = none →
      (((init p maxEntries).run calls).ingest q).1.Authoritative channel e →
      ((init p maxEntries).run calls).Inherited channel e) ∧
    (∀ later channel, Keeps (((init p maxEntries).run calls).stored channel)
      ((((init p maxEntries).run calls).run later).stored channel)) ∧
    (∀ q channel, (((init p maxEntries).run calls).ingest q).2 ≠ .accepted →
      (((init p maxEntries).run calls).ingest q).1.stored channel =
        ((init p maxEntries).run calls).stored channel) ∧
    ((init p maxEntries).run calls).entries.entries.length ≤ maxEntries.val ∧
    ∀ channel e, ((init p maxEntries).run calls).entries.get? channel = some e →
      e.diagnostics.length ≤ maxDiagnosticsPerEntry ∧
      (∃ s' d, ((init p maxEntries).run calls).presentationDescriptor channel =
        .ok (s', some d)) ∧
      ∃ s' v, ((init p maxEntries).run calls).view channel = .ok (s', some v) := by
  have hsound := (sound_init (p := p) maxEntries).run calls
  refine ⟨fun channel e h => earned maxEntries calls h, ?_, fun later => hsound.run_keeps later,
    fun q channel h => ingest_stored _ q h channel, ?_, ?_⟩
  · intro q channel e hnone h
    rcases ingest_authoritative h with ⟨q', d, _, hq', _, hvouches, _⟩ | ⟨_, hinherited⟩
    · cases hq'
      rw [hvouches.2.1] at hnone
      cases hnone
    · exact hinherited
  · have hbounded := hsound.bounded
    rwa [(sound_init maxEntries).run_maxEntries calls] at hbounded
  · intro channel e he
    obtain ⟨s₁, d, hd, _⟩ := hsound.presentationDescriptor_ok he
    obtain ⟨s₂, v, hv, _⟩ := hsound.view_ok he
    exact ⟨(hsound.presentable channel e he).diagnostics, ⟨s₁, d, hd⟩, s₂, v, hv⟩

end DescriptorStore

end Channels
end CryoDaq
