import FxStrategyLab.Shadow.Steps

/-!
# Effects of the E1 shadow engine are durable first and happen once

The journal file only ever gets records that are admitted behind the ones before
them, and the venue is changed only behind the start of an execution that the
file ends in.  Both are invariants of the engine's steps, so they hold over every
run with failing writes, crashes and restarts anywhere.
-/

namespace FxStrategyLab.E1

open Library

variable {setup : E1Setup} {sha : Sha256} {start : List JournalRecord}
  {minted : List CanonicalText} {before : List JournalRecord} {r : JournalRecord}

theorem Admitted.mono {minted' : List CanonicalText} (h : minted <+: minted')
    (hr : Admitted setup sha start minted before r) :
    Admitted setup sha start minted' before r := by
  cases hr with
  | plain htype => exact .plain htype
  | kill htype hopening halive hrunning => exact .kill htype hopening halive hrunning
  | prepare x text hrecorded hprepares =>
      exact .prepare x text hrecorded { hprepares with minted := h.subset hprepares.minted }
  | start x p hlast hp hrecorded => exact .start x p hlast hp hrecorded
  | outcome x s hlast hs htype hrecorded => exact .outcome x s hlast hs htype hrecorded
  | matched now status observed count source hentry hpending hcompared =>
      exact .matched now status observed count source hentry hpending hcompared
  | mismatch now reason expected observed count source hentry hpending =>
      exact .mismatch now reason expected observed count source hentry hpending

theorem eventType_of_entry {entry : JournalEntry} (h : r.toJournalEntry = entry) :
    r.eventType = entry.eventType := by
  rw [← h]

theorem Admitted.prepared (h : Admitted setup sha start minted before r)
    (htype : r.eventType = .intentPrepared) :
    ∃ x text, x.Recorded .intentPrepared r ∧
      Prepares setup sha start minted before x text := by
  cases h with
  | prepare x text hrecorded hprepares => exact ⟨x, text, hrecorded, hprepares⟩
  | plain h => simp [htype, JournalEventType.plain] at h
  | kill h => simp [htype, JournalEventType.killing] at h
  | start x p _ _ hrecorded => cases htype.symm.trans hrecorded.eventType
  | outcome x s _ _ h => simp [htype] at h
  | matched _ _ _ _ _ hentry => cases htype.symm.trans (eventType_of_entry hentry)
  | mismatch _ _ _ _ _ _ hentry => cases htype.symm.trans (eventType_of_entry hentry)

theorem Admitted.started (h : Admitted setup sha start minted before r)
    (htype : r.eventType = .virtualExecutionStarted) :
    ∃ (x : Execution) (p : JournalRecord), before.getLast? = some p ∧
      x.Recorded .intentPrepared p ∧ x.Recorded .virtualExecutionStarted r := by
  cases h with
  | start x p hlast hp hrecorded => exact ⟨x, p, hlast, hp, hrecorded⟩
  | plain h => simp [htype, JournalEventType.plain] at h
  | kill h => simp [htype, JournalEventType.killing] at h
  | prepare x text hrecorded => cases htype.symm.trans hrecorded.eventType
  | outcome x s _ _ h => simp [htype] at h
  | matched _ _ _ _ _ hentry => cases htype.symm.trans (eventType_of_entry hentry)
  | mismatch _ _ _ _ _ _ hentry => cases htype.symm.trans (eventType_of_entry hentry)

/-- The record was admitted in some call. -/
def Behind (setup : E1Setup) (sha : Sha256) (minted : List CanonicalText)
    (before : List JournalRecord) (r : JournalRecord) : Prop :=
  ∃ start, Admitted setup sha start minted before r

theorem Behind.mono {minted' : List CanonicalText} (h : minted <+: minted')
    (hr : Behind setup sha minted before r) : Behind setup sha minted' before r := by
  obtain ⟨start, hr⟩ := hr
  exact ⟨start, hr.mono h⟩

/-- A change of the venue stands behind the preparation and the start of its execution. -/
structure VenueMutation.Sound (m : VenueMutation) : Prop where
  execution : ∃ (x : Execution) (before : List JournalRecord) (p s : JournalRecord),
    m.journal = before ++ [p, s] ∧ x.Recorded .intentPrepared p ∧
      x.Recorded .virtualExecutionStarted s ∧ m.token = x.token
  phase : m.phase = .readyFlat ∨ m.phase = .positionOpen
  effect : Effect m.token m.before m.position

/-- What holds of the two files and of the memory at any moment. -/
structure E1World.Sound (setup : E1Setup) (sha : Sha256) (w : E1World) : Prop where
  memory : w.records <+: w.journalFile.records
  grown : Grown (Behind setup sha w.mintedTexts) w.journalFile.records
  changed : ∀ m ∈ w.mutations, m.Sound ∧ m.journal <+: w.records
  ordered : (w.mutations.map fun m => m.journal.length).Pairwise (· < ·)

theorem write_records (file : JournalFile) (written : Written) (r : JournalRecord) :
    (file.write written r).records = file.records ∨
      (file.write written r).records = file.records ++ [r] := by
  cases written with
  | nothing => exact Or.inl rfl
  | torn => exact Or.inl rfl
  | unterminated => exact Or.inr rfl
  | line => exact Or.inr rfl

variable {x y : Execution}

theorem Execution.Recorded.same {s t : JournalRecord}
    {eventType eventType' : JournalEventType} (hx : x.Recorded eventType s)
    (hy : y.Recorded eventType s) (ht : y.Recorded eventType' t) : x.Recorded eventType' t :=
  ⟨ht.eventType, ht.timestamp.trans (hy.timestamp.symm.trans hx.timestamp),
    ht.action.trans (hy.action.symm.trans hx.action),
    ht.intentId.trans (hy.intentId.symm.trans hx.intentId),
    ht.intentDigest.trans (hy.intentDigest.symm.trans hx.intentDigest),
    ht.tokenId.trans (hy.tokenId.symm.trans hx.tokenId),
    ht.faultKind.trans (hy.faultKind.symm.trans hx.faultKind),
    ht.before.trans (hy.before.symm.trans hx.before),
    ht.planned.trans (hy.planned.symm.trans hx.planned),
    ht.pnlCategory.trans (hy.pnlCategory.symm.trans hx.pnlCategory),
    ht.virtualLoss.trans (hy.virtualLoss.symm.trans hx.virtualLoss)⟩

namespace E1World.Sound

variable {w w' : E1World}

/-- A step that leaves files, memory and changes alone, up to further identifier texts. -/
theorem of_same (h : w.Sound setup sha) (hfile : w'.journalFile = w.journalFile)
    (hrecords : w'.records = w.records) (hmutations : w'.mutations = w.mutations)
    (hminted : w.mintedTexts <+: w'.mintedTexts) : w'.Sound setup sha := by
  refine ⟨?_, ?_, ?_, ?_⟩
  · rw [hfile, hrecords]
    exact h.memory
  · rw [hfile]
    exact h.grown.mono fun _ _ hr => hr.mono hminted
  · rw [hmutations, hrecords]
    exact h.changed
  · rw [hmutations]
    exact h.ordered

theorem record (h : w.Sound setup sha) (hloaded : w.journalFile.load = .ok w.records)
    (hr : Behind setup sha w.mintedTexts w.records r)
    (hfile : w'.journalFile.records = w.journalFile.records ∨
      w'.journalFile.records = w.journalFile.records ++ [r])
    (hrecords : w'.records = w.records ∨
      (w'.records = w.records ++ [r] ∧ w'.journalFile.records = w.journalFile.records ++ [r]))
    (hmutations : w'.mutations = w.mutations) (hminted : w'.mintedTexts = w.mintedTexts) :
    w'.Sound setup sha := by
  have hequal : w.journalFile.records = w.records := (load_ok hloaded).2
  have hgrows : w.records <+: w'.records := by
    rcases hrecords with hrecords | ⟨hrecords, -⟩
    · exact hrecords ▸ List.prefix_rfl
    · rw [hrecords]
      exact List.prefix_append _ _
  refine ⟨?_, ?_, ?_, ?_⟩
  · rcases hrecords with hrecords | ⟨hrecords, hfile⟩
    · rw [hrecords, ← hequal]
      rcases hfile with hfile | hfile
      · exact hfile ▸ List.prefix_rfl
      · rw [hfile]
        exact List.prefix_append _ _
    · rw [hrecords, hfile, hequal]
  · rw [hminted]
    rcases hfile with hfile | hfile
    · rw [hfile]
      exact h.grown
    · rw [hfile]
      exact grown_append_singleton.mpr ⟨h.grown, hequal.symm ▸ hr⟩
  · rw [hmutations]
    exact fun m hm => ⟨(h.changed m hm).1, (h.changed m hm).2.trans hgrows⟩
  · rw [hmutations]
    exact h.ordered

theorem mutation {x : Execution} {position : Option VirtualPosition} (h : w.Sound setup sha)
    (hchanges : Changes sha w x position) :
    VenueMutation.Sound
      { token := x.token, before := w.venueFile, position, journal := w.journalFile.records,
        phase := w.phase } := by
  obtain ⟨s, hlast, hs⟩ := hchanges.started
  obtain ⟨early, hsplit⟩ := List.getLast?_eq_some_iff.mp hlast
  have hfile : w.journalFile.records = early ++ [s] := hchanges.durable.trans hsplit
  obtain ⟨start, hadmitted⟩ := h.grown.at (hfile ▸ List.prefix_rfl : early ++ [s] <+: _)
  obtain ⟨y, p, hp, hprepared, hstarted⟩ := hadmitted.started hs.eventType
  obtain ⟨before, rfl⟩ := List.getLast?_eq_some_iff.mp hp
  refine ⟨⟨x, before, p, s, ?_, hs.same hstarted hprepared, hs, rfl⟩, hchanges.phase,
    hchanges.effect⟩
  rw [hfile, List.append_assoc]
  rfl

/-- **Step lemma.** Every step of the engine keeps the invariant. -/
theorem step (hstep : E1Step setup sha start w w') (h : w.Sound setup sha) :
    w'.Sound setup sha := by
  cases hstep with
  | quiet hsame =>
      exact h.of_same hsame.journalFile hsame.records hsame.mutations hsame.mintedTexts
  | enter phase _ hresult =>
      subst hresult
      exact h.of_same rfl rfl rfl List.prefix_rfl
  | append r hloaded hadmitted _ hresult =>
      rcases hresult with rfl | ⟨written, rfl⟩
      · exact h.record hloaded ⟨start, hadmitted⟩ (Or.inr rfl) (Or.inr ⟨rfl, rfl⟩) rfl rfl
      · exact h.record hloaded ⟨start, hadmitted⟩ (write_records _ written r) (Or.inl rfl) rfl rfl
  | change x position hchanges hresult =>
      have hmutations : w'.mutations = w.mutations ++
          [{ token := x.token, before := w.venueFile, position,
             journal := w.journalFile.records, phase := w.phase }] := by
        rcases hresult with rfl | ⟨-, rfl⟩ <;> rfl
      have hrest : w'.journalFile = w.journalFile ∧ w'.records = w.records ∧
          w'.mintedTexts = w.mintedTexts := by
        rcases hresult with rfl | ⟨-, rfl⟩ <;> exact ⟨rfl, rfl, rfl⟩
      obtain ⟨hfile, hrecords, hminted⟩ := hrest
      refine ⟨?_, ?_, ?_, ?_⟩
      · rw [hfile, hrecords]
        exact h.memory
      · rw [hfile, hminted]
        exact h.grown
      · rw [hmutations, hrecords]
        intro m hm
        rcases List.mem_append.mp hm with hm | hm
        · exact h.changed m hm
        · obtain rfl := List.mem_singleton.mp hm
          exact ⟨h.mutation hchanges, hchanges.durable ▸ List.prefix_rfl⟩
      · rw [hmutations, List.map_append, List.pairwise_append]
        refine ⟨h.ordered, List.pairwise_singleton _ _, fun n hn k hk => ?_⟩
        obtain ⟨m, hm, rfl⟩ := List.mem_map.mp hn
        obtain rfl := List.mem_singleton.mp hk
        show m.journal.length < w.journalFile.records.length
        rw [hchanges.durable]
        exact hchanges.fresh m hm

theorem changesBehind (h : w.Sound setup sha) : w.ChangesBehind :=
  fun m hm => (h.changed m hm).2.length_le

end E1World.Sound

theorem sound_new (venueFile : Option VirtualPosition) :
    (newRun venueFile).world.Sound setup sha :=
  ⟨List.prefix_rfl, grown_nil, nofun, List.Pairwise.nil⟩

theorem E1World.Sound.reloaded {w : E1World} (h : w.Sound setup sha) :
    w.reloaded.Sound setup sha :=
  ⟨List.prefix_rfl, h.grown, fun m hm => ⟨(h.changed m hm).1, (h.changed m hm).2.trans h.memory⟩,
    h.ordered⟩

theorem sound_after (setup : E1Setup) (sha : Sha256) (venueFile : Option VirtualPosition)
    (inputs : List E1Input) :
    (after (e1Step setup sha) (newRun venueFile) inputs).world.Sound setup sha := by
  exact e1_invariant_always (I := E1World.Sound setup sha) (fun w h => h.changesBehind)
    (fun start w w' hstep h => h.step hstep)
    (fun w call h => h.of_same rfl rfl rfl List.prefix_rfl) (fun w _ h => h.reloaded)
    (sound_new venueFile) inputs

structure VenueMutation.PreparedBy (setup : E1Setup) (sha : Sha256)
    (minted : List CanonicalText) (m : VenueMutation) (start before : List JournalRecord)
    (p s : JournalRecord) (x : Execution) (text : CanonicalText) : Prop where
  journal : m.journal = before ++ [p, s]
  prepared : x.Recorded .intentPrepared p
  started : x.Recorded .virtualExecutionStarted s
  token : m.token = x.token
  prepares : Prepares setup sha start minted before x text

theorem Prepares.same {text : CanonicalText}
    {eventType : JournalEventType} (h : Prepares setup sha start minted before y text)
    (hy : y.Recorded eventType r) (hx : x.Recorded eventType r) :
    Prepares setup sha start minted before x text := by
  have haction : x.token.action = y.token.action :=
    Option.some.inj (hx.action.symm.trans hy.action)
  have hintent : x.token.intentId = y.token.intentId :=
    Option.some.inj (hx.intentId.symm.trans hy.intentId)
  have htime : x.time = y.time := hx.timestamp.symm.trans hy.timestamp
  refine ⟨h.minted, hintent.trans h.named, h.sequence, ?_, h.pending, h.alive, h.running, ?_⟩
  · rw [haction]
    exact h.opening
  · rw [haction, htime]
    exact h.capped

theorem E1World.Sound.preparedBy {w : E1World} (h : w.Sound setup sha) {m : VenueMutation}
    (hm : m ∈ w.mutations) :
    ∃ start before p s x text,
      m.PreparedBy setup sha w.mintedTexts start before p s x text := by
  obtain ⟨hsound, hprefix⟩ := h.changed m hm
  obtain ⟨x, before, p, s, hjournal, hp, hs, htoken⟩ := hsound.execution
  have hat : before ++ [p] <+: w.journalFile.records := by
    refine List.IsPrefix.trans ⟨[s], ?_⟩ ( hprefix.trans h.memory)
    rw [hjournal, List.append_assoc]
    rfl
  obtain ⟨start, hadmitted⟩ := h.grown.at hat
  obtain ⟨y, text, hrecorded, hprepares⟩ := hadmitted.prepared hp.eventType
  exact ⟨start, before, p, s, x, text, hjournal, hp, hs, htoken,
    hprepares.same hrecorded hp⟩

theorem killActive_append (l later : List JournalRecord) :
    ShadowIntentJournal.killActive (l ++ later) =
      (ShadowIntentJournal.killActive l || ShadowIntentJournal.killActive later) :=
  List.any_append

theorem halted_append (l later : List JournalRecord) :
    ShadowIntentJournal.halted (l ++ later) =
      (ShadowIntentJournal.halted l || ShadowIntentJournal.halted later) :=
  List.any_append

theorem start_not_sticky {p s : JournalRecord}
    (hp : x.Recorded .intentPrepared p) (hs : x.Recorded .virtualExecutionStarted s) :
    ShadowIntentJournal.killActive [p, s] = false ∧
      ShadowIntentJournal.halted [p, s] = false := by
  simp [ShadowIntentJournal.killActive, ShadowIntentJournal.halted, hp.eventType, hs.eventType,
    JournalEventType.killing]

namespace VenueMutation

/-- The change of an emergency settlement: its intent stands right behind the activation
of the kill switch, which is the first. -/
def Emergency (m : VenueMutation) : Prop :=
  m.token.action = .virtualSettlement ∧
    ∃ (early : List JournalRecord) (k p s : JournalRecord),
      m.journal = early ++ [k, p, s] ∧ k.eventType.killing = true ∧
        ShadowIntentJournal.killActive early = false

/-- What is asked of a single change of the venue: its intent and its start are the last
records of the file, every other intent is resolved, the phase is a stable one, no halt is
recorded, and a kill only in an emergency settlement. -/
structure DurableFirst (m : VenueMutation) : Prop where
  records : ∃ (before : List JournalRecord) (p s : JournalRecord), m.journal = before ++ [p, s] ∧
    boundTo .intentPrepared m.token p = true ∧
      boundTo .virtualExecutionStarted m.token s = true
  pending : ∀ q ∈ ShadowIntentJournal.prepared m.journal,
    ShadowIntentJournal.unresolved m.journal q = true → q.intentId = some m.token.intentId
  phase : m.phase = .readyFlat ∨ m.phase = .positionOpen
  running : ShadowIntentJournal.halted m.journal = false
  alive : ShadowIntentJournal.killActive m.journal = true → m.Emergency

variable {m m' : VenueMutation}

variable {x : Execution}

theorem boundTo_of_recorded {eventType : JournalEventType}
    (h : x.Recorded eventType r) : boundTo eventType x.token r = true := by
  simp [boundTo, h.eventType, h.tokenId, h.intentId, h.intentDigest, h.action]

theorem unresolved_of_prepares {p s q : JournalRecord}
    (hpending : ShadowIntentJournal.unresolvedIntents before = .ok [])
    (hp : x.Recorded .intentPrepared p) (hs : x.Recorded .virtualExecutionStarted s)
    (hq : q ∈ ShadowIntentJournal.prepared (before ++ [p, s]))
    (hunresolved : ShadowIntentJournal.unresolved (before ++ [p, s]) q = true) :
    q.intentId = some x.token.intentId := by
  have hresolved : ShadowIntentJournal.resolvedIds (before ++ [p, s]) =
      ShadowIntentJournal.resolvedIds before := by
    simp [ShadowIntentJournal.resolvedIds, hp.eventType, hs.eventType,
      JournalEventType.resolving]
  have hprepared : ShadowIntentJournal.prepared (before ++ [p, s]) =
      ShadowIntentJournal.prepared before ++ [p] := by
    simp [ShadowIntentJournal.prepared, hp.eventType, hs.eventType, hp.intentId]
  rw [hprepared] at hq
  rcases List.mem_append.mp hq with hq | hq
  · exfalso
    unfold ShadowIntentJournal.unresolvedIntents at hpending
    split at hpending
    · have hnone := List.filter_eq_nil_iff.mp (Except.ok.inj hpending) q hq
      unfold ShadowIntentJournal.unresolved at hnone hunresolved
      rw [hresolved] at hunresolved
      exact hnone hunresolved
    · cases hpending
  · obtain rfl := List.mem_singleton.mp hq
    exact hp.intentId

theorem PreparedBy.durableFirst {p s : JournalRecord} {text : CanonicalText}
    (h : m.PreparedBy setup sha minted start before p s x text) (hm : m.Sound) :
    m.DurableFirst := by
  obtain ⟨halive, hrunning⟩ := start_not_sticky h.prepared h.started
  refine ⟨⟨before, p, s, h.journal, ?_, ?_⟩, fun q hq hunresolved => ?_, hm.phase, ?_, ?_⟩
  · rw [h.token]
    exact boundTo_of_recorded h.prepared
  · rw [h.token]
    exact boundTo_of_recorded h.started
  · rw [h.journal] at hq hunresolved
    rw [h.token]
    exact unresolved_of_prepares h.prepares.pending h.prepared h.started hq hunresolved
  · rw [h.journal, halted_append, hrunning, Bool.or_false]
    rcases h.prepares.opening with rfl | ⟨k, rfl, hk, -⟩
    · exact h.prepares.running
    · rw [halted_append, h.prepares.running, Bool.false_or]
      cases htype : k.eventType <;>
        simp_all [ShadowIntentJournal.halted, JournalEventType.killing]
  · intro hkill
    rw [h.journal, killActive_append, halive, Bool.or_false] at hkill
    rcases h.prepares.opening with rfl | ⟨k, rfl, hk, haction⟩
    · rw [h.prepares.alive] at hkill
      cases hkill
    · refine ⟨h.token ▸ haction, start, k, p, s, ?_, hk, h.prepares.alive⟩
      rw [h.journal, List.append_assoc]
      rfl

theorem Emergency.length_eq {l : List JournalRecord} (h : m.Emergency) (h' : m'.Emergency)
    (hm : m.journal <+: l) (hm' : m'.journal <+: l) : m.journal.length = m'.journal.length := by
  have hle : ∀ {m m' : VenueMutation}, m.Emergency → m'.Emergency → m.journal <+: l →
      m'.journal <+: l → m'.journal.length ≤ m.journal.length := by
    rintro m m' ⟨-, early, k, p, s, hjournal, hk, -⟩ ⟨-, early', k', p', s', hjournal', -, hclear⟩
      hm hm'
    by_contra hlt
    rw [hjournal, hjournal'] at hlt
    simp only [List.length_append, List.length_cons, List.length_nil] at hlt
    -- the activation of the shorter journal is one of the early records of the longer one
    have hshort : early ++ [k] <+: l := by
      refine List.IsPrefix.trans ⟨[p, s], ?_⟩ hm
      rw [hjournal, List.append_assoc]
      rfl
    have hlong : early' <+: l := List.IsPrefix.trans ⟨[k', p', s'], hjournal'.symm⟩ hm'
    have hin := prefix_of_length_lt hshort hlong (by omega)
    have hkill : ShadowIntentJournal.killActive early' = true :=
      List.any_eq_true.mpr ⟨k, hin.subset (by simp), hk⟩
    rw [hclear] at hkill
    cases hkill
  have h₁ := hle h h' hm hm'
  have h₂ := hle h' h hm' hm
  omega

end VenueMutation

/-- The identifiers that were minted over these texts are distinct where the texts are. -/
def DistinctIds (sha : Sha256) (minted : List CanonicalText) : Prop :=
  ∀ text ∈ minted, ∀ text' ∈ minted,
    makeLocalId sha "intent" text = makeLocalId sha "intent" text' → text = text'
deriving Decidable

namespace E1World.Sound

variable {w : E1World}

/-- The journal of a change is two records longer than the number in its intent's text. -/
theorem length_of_intentId (h : w.Sound setup sha) (hdistinct : DistinctIds sha w.mintedTexts)
    {m m' : VenueMutation} (hm : m ∈ w.mutations) (hm' : m' ∈ w.mutations)
    (hid : m.token.intentId = m'.token.intentId) : m.journal.length = m'.journal.length := by
  obtain ⟨start, before, p, s, x, text, hprepared⟩ := h.preparedBy hm
  obtain ⟨start', before', p', s', x', text', hprepared'⟩ := h.preparedBy hm'
  rw [hprepared.token, hprepared'.token, hprepared.prepares.named,
    hprepared'.prepares.named] at hid
  obtain rfl := hdistinct text hprepared.prepares.minted text' hprepared'.prepares.minted hid
  have hsequence := hprepared.prepares.sequence.symm.trans hprepared'.prepares.sequence
  have hlength : before.length = before'.length := by simpa using hsequence
  rw [hprepared.journal, hprepared'.journal, List.length_append, List.length_append, hlength]
  rfl

theorem intentIds_nodup (h : w.Sound setup sha) (hdistinct : DistinctIds sha w.mintedTexts) :
    (w.mutations.map fun m => m.token.intentId).Nodup := by
  have hordered := List.pairwise_map.mp h.ordered
  refine List.pairwise_map.mpr (hordered.imp_of_mem fun hm hm' hlt hid => ?_)
  have hlength := h.length_of_intentId hdistinct hm hm' hid
  omega

theorem emergency_unique (h : w.Sound setup sha) :
    w.mutations.Pairwise fun m m' => ¬(m.Emergency ∧ m'.Emergency) := by
  have hordered := List.pairwise_map.mp h.ordered
  refine hordered.imp_of_mem fun hm hm' hlt hboth => ?_
  have hlength := hboth.1.length_eq hboth.2 (h.changed _ hm).2 (h.changed _ hm').2
  omega

end E1World.Sound

/-- **The effects of an E1 run are durable first and happen at most once.** -/
theorem venue_effects_durable_first_at_most_once (setup : E1Setup) (sha : Sha256)
    (venueFile : Option VirtualPosition) (inputs : List E1Input) :
    let w := (after (e1Step setup sha) (newRun venueFile) inputs).world
    (∀ m ∈ w.mutations, m.DurableFirst ∧ m.journal <+: w.journalFile.records) ∧
      (w.mutations.Pairwise fun m m' => ¬(m.Emergency ∧ m'.Emergency)) ∧
        (DistinctIds sha w.mintedTexts →
          (w.mutations.map fun m => m.token.intentId).Nodup) := by
  intro w
  have h : w.Sound setup sha := sound_after setup sha venueFile inputs
  refine ⟨fun m hm => ?_, h.emergency_unique, h.intentIds_nodup⟩
  obtain ⟨start, before, p, s, x, text, hprepared⟩ := h.preparedBy hm
  exact ⟨hprepared.durableFirst (h.changed m hm).1, (h.changed m hm).2.trans h.memory⟩

open Sample in
/-- An entry and its settlement: two changes, and no intent twice. -/
theorem sample_effects_once : let w := (after (e1Step Sample.setup .checksum) (newRun none)
      (started ++ [call (buy 10 {}), call (settle 10 100 {})])).world
    w.mutations.length = 2 ∧ (w.mutations.map fun m => m.token.intentId).Nodup :=
  ⟨by decide +kernel,
    (venue_effects_durable_first_at_most_once Sample.setup .checksum none _).2.2 (by decide +kernel)⟩

end FxStrategyLab.E1
