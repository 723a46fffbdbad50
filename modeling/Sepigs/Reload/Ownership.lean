import Sepigs.Core.Construction
import Sepigs.Reload.Atomicity

/-!
# Ownership of the outbound objects

Who may stop an outbound object: an object belongs to a prepared value until the
value is committed, from then on to the generation the registry was given it with.
`Owned` says so of the host, for any number of reloads at once, and every operation
keeps it whatever else goes on.  So no object of a registered generation has been
stopped.
-/

namespace Sepigs

/-! ## New objects -/

/-- New objects are numbered from `ref` on, and are distinct. -/
theorem OutboundRuntimeAdapter.createRuntimeOutbounds_values (first : Nat)
    (configs : List OutboundConfig) : ∀ (ref : Nat) (outbounds : KeyMap String Outbound),
    outbounds.values.Nodup → (∀ o ∈ outbounds.values, first ≤ o.ref ∧ o.ref < ref) → first ≤ ref →
    (createRuntimeOutbounds ref configs outbounds).values.Nodup ∧
      ∀ o ∈ (createRuntimeOutbounds ref configs outbounds).values,
        first ≤ o.ref ∧ o.ref < ref + configs.length := by
  induction configs with
  | nil =>
    intro ref outbounds hnodup hrefs _
    exact ⟨hnodup, hrefs⟩
  | cons config configs ih =>
    intro ref outbounds hnodup hrefs hfirst
    have hsub := outbounds.values_delete_sublist config.tag
    have hvalues := outbounds.values_set config.tag ⟨ref, config.tag, config.type⟩
    have hset : (outbounds.set config.tag ⟨ref, config.tag, config.type⟩).values.Nodup := by
      rw [hvalues, List.nodup_cons]
      refine ⟨fun hmem => ?_, hsub.nodup hnodup⟩
      have h := (hrefs _ (hsub.subset hmem)).2
      exact Nat.lt_irrefl _ h
    have hnew : ∀ o ∈ (outbounds.set config.tag ⟨ref, config.tag, config.type⟩).values,
        first ≤ o.ref ∧ o.ref < ref + 1 := by
      intro o ho
      rw [hvalues] at ho
      rcases List.mem_cons.mp ho with rfl | ho
      · exact ⟨hfirst, Nat.lt_succ_self _⟩
      · have h := hrefs o (hsub.subset ho)
        omega
    obtain ⟨h1, h2⟩ := ih (ref + 1) _ hset hnew (by omega)
    refine ⟨h1, fun o ho => ?_⟩
    have h := h2 o ho
    simp only [List.length_cons]
    omega

/-! ## Owners -/

/-- The two values have no object in common. -/
def OutboundRuntimePrepared.Apart (value value' : OutboundRuntimePrepared) : Prop :=
  value.ref ≠ value'.ref ∧
    ∀ o ∈ value.candidateOutbounds.values, o ∉ value'.candidateOutbounds.values

theorem OutboundRuntimePrepared.Apart.symm {value value' : OutboundRuntimePrepared}
    (h : value.Apart value') : value'.Apart value :=
  ⟨h.1.symm, fun o ho ho' => h.2 o ho' ho⟩

instance : Std.Symm OutboundRuntimePrepared.Apart where
  symm _ _ h := h.symm

/-- An object of a value; `nextRef` is the next fresh one. -/
structure OutboundRuntimePrepared.Created (value : OutboundRuntimePrepared) (nextRef : Nat) :
    Prop where
  generation : value.candidateGeneration.ref = value.ref
  ref_lt : value.ref < nextRef
  objects_lt : ∀ o ∈ value.candidateOutbounds.values, o.ref < nextRef
  nodup : value.candidateOutbounds.values.Nodup

/-- `pending` are the values not committed yet, `registered` everything the registry
was ever given. -/
structure Owned (pending : List OutboundRuntimePrepared) (s : RuntimeHost)
    (registered : List RuntimeEntry) : Prop where
  lifecycle : Lifecycle s.registry registered
  active : ∃ e, s.registry.liveEntry s.registry.activeGenerationId = some e
  below : ∀ e ∈ registered, e.generation.ref < s.nextRef ∧
    ∀ o ∈ e.outbounds.values, o.ref < s.nextRef
  created : ∀ value ∈ pending, value.Created s.nextRef
  fresh : ∀ value ∈ pending, ∀ e ∈ registered, e.generation.ref ≠ value.ref ∧
    ∀ o ∈ value.candidateOutbounds.values, o ∉ e.outbounds.values
  apart : pending.Pairwise OutboundRuntimePrepared.Apart

namespace Owned

variable {pending : List OutboundRuntimePrepared} {s t : RuntimeHost}
  {registered : List RuntimeEntry}

/-- The objects of a registered generation have not been stopped. -/
theorem unstopped (h : Owned pending s registered) {id : String} {e : RuntimeEntry}
    (he : s.registry.liveEntry id = some e) : ∀ o ∈ e.outbounds.values, o ∉ s.registry.stopCalls := by
  intro o ho
  have hkey := h.lifecycle.keyed id e he
  have hcount := h.lifecycle.live_count e (h.lifecycle.mem_registered id e he) (by rw [hkey, he]) o ho
  exact List.count_eq_zero.mp hcount

/-- A move after which the registry is one of the same generations. -/
theorem move (h : Owned pending s registered) (hlifecycle : Lifecycle t.registry registered)
    (hactive : ∃ e, t.registry.liveEntry t.registry.activeGenerationId = some e)
    (hnext : s.nextRef ≤ t.nextRef) : Owned pending t registered := by
  refine ⟨hlifecycle, hactive, fun e he => ?_, fun value hv => ?_, h.fresh, h.apart⟩
  · obtain ⟨h1, h2⟩ := h.below e he
    exact ⟨Nat.lt_of_lt_of_le h1 hnext, fun o ho => Nat.lt_of_lt_of_le (h2 o ho) hnext⟩
  · obtain ⟨h1, h2, h3, h4⟩ := h.created value hv
    exact ⟨h1, Nat.lt_of_lt_of_le h2 hnext, fun o ho => Nat.lt_of_lt_of_le (h3 o ho) hnext, h4⟩

/-- A move that the registry does not notice. -/
theorem quiet (h : Owned pending s registered) (hregistry : t.registry = s.registry)
    (hnext : s.nextRef ≤ t.nextRef) : Owned pending t registered :=
  h.move (hregistry ▸ h.lifecycle) (hregistry ▸ h.active) hnext

theorem sublist (h : Owned pending s registered) {pending' : List OutboundRuntimePrepared}
    (hsub : pending'.Sublist pending) : Owned pending' s registered :=
  ⟨h.lifecycle, h.active, h.below, fun value hv => h.created value (hsub.subset hv),
    fun value hv => h.fresh value (hsub.subset hv), h.apart.sublist hsub⟩

theorem perm (h : Owned pending s registered) {pending' : List OutboundRuntimePrepared}
    (hperm : pending'.Perm pending) : Owned pending' s registered := by
  refine ⟨h.lifecycle, h.active, h.below, fun value hv => h.created value (hperm.subset hv),
    fun value hv => h.fresh value (hperm.subset hv), ?_⟩
  exact (hperm.pairwise_iff fun hv => hv.symm).mpr h.apart

theorem retireIfUnused (h : Owned pending s registered) (id : String) :
    Owned pending { s with registry := s.registry.retireIfUnused id } registered := by
  obtain ⟨e, he⟩ := h.active
  obtain ⟨hactive, hentry⟩ := s.registry.retireIfUnused_active id
  refine h.move (h.lifecycle.retireIfUnused id) ⟨e, ?_⟩ (Nat.le_refl _)
  show (s.registry.retireIfUnused id).liveEntry (s.registry.retireIfUnused id).activeGenerationId = _
  rw [hactive, hentry, he]

theorem restoreGeneration (h : Owned pending s registered) {oldId candidateId : String}
    {registry : OutboundRuntimeRegistry}
    (hs : s.registry.restoreGeneration oldId candidateId = .ok registry) :
    Owned pending { s with registry := registry } registered := by
  obtain ⟨hactive, hlive, hstop, hold⟩ := OutboundRuntimeRegistry.restoreGeneration_frame hs
  refine h.move (h.lifecycle.congr hlive hstop) ?_ (Nat.le_refl _)
  rw [hactive, hlive]
  exact hold

/-- A request moves no object to another owner. -/
theorem request (h : Owned pending s registered) (op : RequestOperation) :
    Owned pending (s.request op) registered := by
  have hr : Others s.registry.activeGenerationId true s (s.request op) :=
    Others.request s op fun hnot => nomatch hnot
  have hview : (s.request op).view s.registry.activeGenerationId =
      s.view s.registry.activeGenerationId := Undisturbed.view_eq hr
  obtain ⟨e, he⟩ := h.active
  refine h.move (hr.lifecycle registered h.lifecycle) ⟨e, ?_⟩
    (Nat.le_of_eq (congrArg ReloadView.nextRef hview).symm)
  exact (congrArg ReloadView.activeEntry hview).trans he

/-- The switch gives the objects of a value to the registry. -/
theorem switchGeneration (h : Owned pending s registered) {value : OutboundRuntimePrepared}
    (hv : value ∈ pending) {registry : OutboundRuntimeRegistry}
    (hs : s.registry.switchGeneration value.candidateGeneration value.candidateOutbounds =
      .ok registry) :
    Owned (pending.filter fun value' => value' ≠ value) { s with registry := registry }
      (⟨value.candidateGeneration, value.candidateOutbounds⟩ :: registered) := by
  obtain ⟨hgen, hlt, hobjects, hnodup⟩ := h.created value hv
  have hfresh := h.fresh value hv
  obtain ⟨-, -, hactive, hlive, -⟩ := OutboundRuntimeRegistry.switchGeneration_spec hs
  have hrest : ∀ value' ∈ pending.filter (fun value' => value' ≠ value),
      value' ∈ pending ∧ value.Apart value' := by
    intro value' hv'
    obtain ⟨hmem, hne⟩ := List.mem_filter.mp hv'
    have hne : value' ≠ value := of_decide_eq_true hne
    exact ⟨hmem, h.apart.forall hv hmem (Ne.symm hne)⟩
  refine ⟨h.lifecycle.switchGeneration hs ?_ hnodup ?_, ?_, ?_, ?_, ?_, h.apart.sublist
    List.filter_sublist⟩
  · intro e he
    rw [hgen]
    exact (hfresh e he).1
  · intro o ho hmem
    obtain ⟨e, he, hoe⟩ := List.mem_flatMap.mp hmem
    exact (hfresh e he).2 o ho hoe
  · refine ⟨⟨value.candidateGeneration, value.candidateOutbounds⟩, ?_⟩
    rw [hactive, hlive, if_pos rfl]
  · intro e he
    rcases List.mem_cons.mp he with rfl | he
    · exact ⟨hgen ▸ hlt, hobjects⟩
    · exact h.below e he
  · exact fun value' hv' => h.created value' (hrest value' hv').1
  · intro value' hv' e he
    obtain ⟨hmem, happart⟩ := hrest value' hv'
    rcases List.mem_cons.mp he with rfl | he
    · exact ⟨hgen ▸ happart.1, happart.symm.2⟩
    · exact h.fresh value' hmem e he

/-- `prepare` makes a value with objects of its own. -/
theorem prepare (h : Owned pending s registered) (task : ReloadTask) :
    Owned (OutboundRuntimeAdapter.preparedValue task s :: pending)
      { s.setOutboundFlags (OutboundRuntimeAdapter.preparedValue task s) ⟨false, false, false⟩ with
        nextRef := s.nextRef + 1 + task.candidate.outbounds.length } registered := by
  obtain ⟨hnodup, hrefs⟩ := OutboundRuntimeAdapter.createRuntimeOutbounds_values (s.nextRef + 1)
    task.candidate.outbounds (s.nextRef + 1) ∅ List.nodup_nil (fun o ho => nomatch ho) (Nat.le_refl _)
  have hle : s.nextRef ≤ s.nextRef + 1 + task.candidate.outbounds.length := by omega
  have hmoved : Owned pending
      { s.setOutboundFlags (OutboundRuntimeAdapter.preparedValue task s) ⟨false, false, false⟩ with
        nextRef := s.nextRef + 1 + task.candidate.outbounds.length } registered := h.quiet rfl hle
  -- Everything there is has a smaller number than the new objects.
  have hnew : ∀ o ∈ (OutboundRuntimeAdapter.preparedValue task s).candidateOutbounds.values,
      s.nextRef < o.ref := by
    intro o ho
    have := (hrefs o ho).1
    omega
  refine ⟨hmoved.lifecycle, hmoved.active, hmoved.below, ?_, ?_, List.pairwise_cons.mpr ⟨?_, h.apart⟩⟩
  · intro value hv
    rcases List.mem_cons.mp hv with rfl | hv
    · refine ⟨rfl, ?_, fun o ho => (hrefs o ho).2, hnodup⟩
      show s.nextRef < s.nextRef + 1 + task.candidate.outbounds.length
      omega
    · exact hmoved.created value hv
  · intro value hv e he
    rcases List.mem_cons.mp hv with rfl | hv
    · obtain ⟨h1, h2⟩ := h.below e he
      refine ⟨Nat.ne_of_lt h1, fun o ho hoe => ?_⟩
      have h3 := hnew o ho
      have h4 := h2 o hoe
      omega
    · exact h.fresh value hv e he
  · intro value hv
    obtain ⟨-, hlt, hobjects, -⟩ := h.created value hv
    refine ⟨Nat.ne_of_gt hlt, fun o ho ho' => ?_⟩
    have h3 := hnew o ho
    have h4 := hobjects o ho'
    omega

end Owned

open RuntimeReloadIntegration RuntimeTransaction

/-! ## The operations of a reload -/

/-- What is pending after an operation: `prepare` makes a value, `commit` gives it away. -/
def claims (operation : RuntimeOperation) (reply : operation.Reply)
    (pending : List OutboundRuntimePrepared) : List OutboundRuntimePrepared :=
  match operation, reply with
  | .prepare _, reply =>
    match reply with
    | .ok (.outbound value) => value :: pending
    | _ => pending
  | .commit ⟨_, .outbound value⟩, _ => pending.filter fun value' => value' ≠ value
  | _, _ => pending

/-- The operation commits no value but a pending one. -/
def CommitsOwn (operation : RuntimeOperation) (pending : List OutboundRuntimePrepared) : Prop :=
  ∀ component value, operation = .commit ⟨component, .outbound value⟩ → value ∈ pending

namespace Owned

variable {pending others before after : List OutboundRuntimePrepared} {s t : RuntimeHost}
  {registered : List RuntimeEntry}

/-- Beside other owners' values, a value that is given away is only one's own. -/
theorem filter_between (h : Owned (before ++ pending ++ after) s registered)
    {value : OutboundRuntimePrepared} (hv : value ∈ pending) :
    (before ++ pending ++ after).filter (fun value' => value' ≠ value) =
      before ++ pending.filter (fun value' => value' ≠ value) ++ after := by
  obtain ⟨hleft, -, hright⟩ := List.pairwise_append.mp h.apart
  obtain ⟨-, -, hbefore⟩ := List.pairwise_append.mp hleft
  rw [List.filter_append, List.filter_append]
  congr 1
  · congr 1
    refine List.filter_eq_self.mpr fun value' hv' => decide_eq_true ?_
    rintro rfl
    exact (hbefore _ hv' _ hv).1 rfl
  · refine List.filter_eq_self.mpr fun value' hv' => decide_eq_true ?_
    rintro rfl
    exact (hright _ (List.mem_append_right _ hv) _ hv').1 rfl

/-- The commit of a pending value, whether it succeeds or not. -/
theorem commit (h : Owned pending s registered) {value : OutboundRuntimePrepared}
    (hv : value ∈ pending) : ∃ registered', (∀ e ∈ registered, e ∈ registered') ∧
      Owned (pending.filter fun value' => value' ≠ value) (OutboundRuntimeAdapter.commit value s).2
        registered' := by
  have hkept : Owned (pending.filter fun value' => value' ≠ value) s registered :=
    h.sublist List.filter_sublist
  unfold OutboundRuntimeAdapter.commit
  cases hs : s.registry.switchGeneration value.candidateGeneration value.candidateOutbounds with
  | error error => exact ⟨registered, fun _ he => he, hkept⟩
  | ok registry =>
    have hswitched := h.switchGeneration hv hs
    refine ⟨⟨value.candidateGeneration, value.candidateOutbounds⟩ :: registered,
      fun _ he => List.mem_cons_of_mem _ he, ?_⟩
    dsimp only
    split
    · split
      · exact hswitched.quiet rfl (Nat.le_refl _)
      · unfold OutboundRuntimeAdapter.commitFailed
        split
        · exact hswitched.quiet rfl (Nat.le_refl _)
        · next hrestore =>
          exact ((hswitched.restoreGeneration hrestore).retireIfUnused _).quiet rfl (Nat.le_refl _)
    · exact hswitched.quiet rfl (Nat.le_refl _)

theorem rollback (h : Owned pending s registered) (value : OutboundRuntimePrepared) :
    Owned pending (OutboundRuntimeAdapter.rollback value s).2 registered := by
  unfold OutboundRuntimeAdapter.rollback
  dsimp only
  split
  · split
    · exact h
    · next hrestore =>
      have hrestored := h.restoreGeneration hrestore
      split
      · exact hrestored.quiet rfl (Nat.le_refl _)
      · exact hrestored.quiet rfl (Nat.le_refl _)
  · exact h.quiet rfl (Nat.le_refl _)

theorem cleanup (h : Owned pending s registered) (value : OutboundRuntimePrepared) :
    Owned pending (OutboundRuntimeAdapter.cleanup value s).2 registered := by
  obtain ⟨result, registry, flags, hcleanup, hregistry⟩ := OutboundRuntimeAdapter.cleanup_spec value s
  rw [hcleanup]
  rcases hregistry with rfl | ⟨id, rfl⟩
  · exact h.quiet rfl (Nat.le_refl _)
  · exact (h.retireIfUnused id).quiet rfl (Nat.le_refl _)

/-- The routing adapters leave the registry alone. -/
theorem prepare_routing (h : Owned pending s registered) (task : ReloadTask)
    (conditions : Conditions) :
    Owned pending (RouterRuntimeAdapter.prepare task conditions s).2 registered ∧
    Owned pending (PolicyRuntimeAdapter.prepare task conditions s).2 registered := by
  constructor
  · unfold RouterRuntimeAdapter.prepare
    dsimp only
    split
    · exact h.quiet rfl (Nat.le_refl _)
    · exact h
  · unfold PolicyRuntimeAdapter.prepare
    dsimp only
    split
    · exact h.quiet rfl (Nat.le_refl _)
    · exact h

theorem commitRouting (h : Owned pending s registered) (transactionId : String)
    (component : RoutingComponent) :
    Owned pending (s.commitRouting transactionId component).2 registered := by
  unfold RuntimeHost.commitRouting
  split
  · exact h.quiet rfl (Nat.le_refl _)
  · exact h

/-- What `prepare` of an adapter makes is its own. -/
theorem prepare_adapter (h : Owned (before ++ pending ++ after) s registered) (task : ReloadTask)
    (conditions : Conditions) (component : TransactionalReloadComponent) :
    Owned (before ++ claims (.prepare component) (s.prepare task conditions component).1 pending ++
      after) (s.prepare task conditions component).2 registered := by
  cases component with
  | metrics =>
    unfold RuntimeHost.prepare checked
    cases conditions.rejection with
    | none => exact h
    | some message => exact h
  | dashboard =>
    unfold RuntimeHost.prepare checked
    cases conditions.rejection with
    | none => exact h
    | some message => exact h
  | router =>
    have hrouting := (h.prepare_routing task conditions).1
    unfold RuntimeHost.prepare
    unfold RouterRuntimeAdapter.prepare at hrouting ⊢
    dsimp only at hrouting ⊢
    split
    · next hstaged =>
      rw [hstaged] at hrouting
      exact hrouting
    · exact h
  | policy =>
    have hrouting := (h.prepare_routing task conditions).2
    unfold RuntimeHost.prepare
    unfold PolicyRuntimeAdapter.prepare at hrouting ⊢
    dsimp only at hrouting ⊢
    split
    · next hstaged =>
      rw [hstaged] at hrouting
      exact hrouting
    · exact h
  | outbound =>
    unfold RuntimeHost.prepare
    dsimp only
    rcases OutboundRuntimeAdapter.prepare_cases task conditions s with
      ⟨message, registry, he, hregistry⟩ | he
    · rw [he]
      refine h.move ?_ ?_ (Nat.le_refl _)
      · rcases hregistry with rfl | rfl
        · exact h.lifecycle
        · exact h.lifecycle.congr rfl rfl
      · rcases hregistry with rfl | rfl
        · exact h.active
        · exact h.active
    · rw [he]
      refine (h.prepare task).perm ?_
      rw [List.append_assoc, List.append_assoc]
      exact List.perm_middle
  | dns =>
    unfold RuntimeHost.prepare
    dsimp only
    rcases DnsRuntimeAdapter.prepare_cases task conditions s with ⟨message, dns, he, -⟩ | he
    · rw [he]
      exact h.quiet rfl (Nat.le_refl _)
    · rw [he]
      exact h.quiet rfl (Nat.le_succ _)

/-- **Every operation keeps the owners**, if it commits no value but a pending one. -/
theorem performs (h : Owned (before ++ pending ++ after) s registered) {task : ReloadTask}
    {operation : RuntimeOperation} {reply : operation.Reply}
    (hcommits : CommitsOwn operation pending) (hs : Performs task operation s reply t) :
    ∃ registered', (∀ e ∈ registered, e ∈ registered') ∧
      Owned (before ++ claims operation reply pending ++ after) t registered' := by
  cases operation with
  | simple phase =>
    obtain ⟨conditions, hs⟩ := hs
    obtain rfl : s = t := congrArg Prod.snd hs
    exact ⟨registered, fun _ he => he, h⟩
  | healthCheck entry =>
    obtain ⟨conditions, hs⟩ := hs
    obtain rfl : s = t := congrArg Prod.snd hs
    exact ⟨registered, fun _ he => he, h⟩
  | prepare component =>
    refine ⟨registered, fun _ he => he, ?_⟩
    obtain ⟨message, rfl, rfl⟩ | ⟨conditions, hs⟩ := performs_prepare hs
    · exact h
    · have hprepare := h.prepare_adapter task conditions component
      rw [hs] at hprepare
      exact hprepare
  | commit entry =>
    obtain ⟨component, prepared⟩ := entry
    cases prepared with
    | outbound value =>
      have hv := hcommits component value rfl
      have hfilter := h.filter_between hv
      obtain ⟨message, rfl, rfl⟩ | ⟨conditions, hs⟩ := performs_commit hs
      · refine ⟨registered, fun _ he => he, ?_⟩
        have hkept := h.sublist (List.filter_sublist (p := fun value' => value' ≠ value))
        rw [hfilter] at hkept
        exact hkept
      · have hmem : value ∈ before ++ pending ++ after :=
          List.mem_append_left _ (List.mem_append_right _ hv)
        obtain ⟨registered', hsub, hcommit⟩ := h.commit hmem
        rw [hfilter, show OutboundRuntimeAdapter.commit value s = _ from hs] at hcommit
        exact ⟨registered', hsub, hcommit⟩
    | controlPlane =>
      refine ⟨registered, fun _ he => he, ?_⟩
      obtain ⟨message, rfl, rfl⟩ | ⟨conditions, hs⟩ := performs_commit hs
      · exact h
      · obtain rfl : s = t := congrArg Prod.snd hs
        exact h
    | router transactionId =>
      refine ⟨registered, fun _ he => he, ?_⟩
      obtain ⟨message, rfl, rfl⟩ | ⟨conditions, hs⟩ := performs_commit hs
      · exact h
      · have hcommit := h.commitRouting transactionId .router
        rw [show s.commitRouting transactionId .router = _ from hs] at hcommit
        exact hcommit
    | policy transactionId =>
      refine ⟨registered, fun _ he => he, ?_⟩
      obtain ⟨message, rfl, rfl⟩ | ⟨conditions, hs⟩ := performs_commit hs
      · exact h
      · have hcommit := h.commitRouting transactionId .policy
        rw [show s.commitRouting transactionId .policy = _ from hs] at hcommit
        exact hcommit
    | dns value =>
      refine ⟨registered, fun _ he => he, ?_⟩
      obtain ⟨message, rfl, rfl⟩ | ⟨conditions, hs⟩ := performs_commit hs
      · exact h
      · cases hs
        exact h.quiet rfl (Nat.le_refl _)
  | rollback entry =>
    refine ⟨registered, fun _ he => he, ?_⟩
    obtain ⟨conditions, hs⟩ := hs
    have hs : s.rollback conditions entry.prepared = (reply, t) := hs
    obtain rfl : (s.rollback conditions entry.prepared).2 = t := congrArg Prod.snd hs
    unfold RuntimeHost.rollback
    cases entry.prepared with
    | controlPlane => exact h
    | router transactionId => exact h.quiet rfl (Nat.le_refl _)
    | policy transactionId => exact h.quiet rfl (Nat.le_refl _)
    | outbound value => exact h.rollback value
    | dns value =>
      unfold DnsRuntimeAdapter.rollback
      dsimp only
      split
      · exact h.quiet rfl (Nat.le_refl _)
      · exact h.quiet rfl (Nat.le_refl _)
  | cleanup entry =>
    refine ⟨registered, fun _ he => he, ?_⟩
    obtain ⟨conditions, hs⟩ := hs
    obtain rfl : (s.cleanup entry.prepared).2 = t := congrArg Prod.snd hs
    unfold RuntimeHost.cleanup
    cases entry.prepared with
    | controlPlane => exact h
    | router transactionId => exact h.quiet rfl (Nat.le_refl _)
    | policy transactionId => exact h.quiet rfl (Nat.le_refl _)
    | outbound value => exact h.cleanup value
    | dns value => exact h.quiet rfl (Nat.le_refl _)

end Owned

/-! ## The program of a reload -/

/-- What an operation may do to the pending values. -/
def Claims (operation : RuntimeOperation) (pending : List OutboundRuntimePrepared)
    (reply : operation.Reply) (pending' : List OutboundRuntimePrepared) : Prop :=
  (∃ (task : ReloadTask) (s t : RuntimeHost), Performs task operation s reply t) ∧
    pending' = claims operation reply pending

/-- Only the outbound adapter prepares outbound values. -/
theorem Claims.outbound {component : TransactionalReloadComponent}
    {pending pending' : List OutboundRuntimePrepared} {value : OutboundRuntimePrepared}
    (h : Claims (.prepare component) pending (.ok (.outbound value)) pending') :
    component = .outbound ∧ pending' = value :: pending := by
  obtain ⟨⟨task, s, t, hs⟩, rfl⟩ := h
  refine ⟨?_, rfl⟩
  obtain ⟨message, hreply, -⟩ | ⟨conditions, hs⟩ := performs_prepare hs
  · cases hreply
  have hreply : (s.prepare task conditions component).1 = .ok (.outbound value) :=
    congrArg Prod.fst hs
  unfold RuntimeHost.prepare checked at hreply
  cases component with
  | outbound => rfl
  | metrics =>
    cases hrejection : conditions.rejection <;> rw [hrejection] at hreply <;> cases hreply
  | dashboard =>
    cases hrejection : conditions.rejection <;> rw [hrejection] at hreply <;> cases hreply
  | router =>
    unfold RouterRuntimeAdapter.prepare at hreply
    dsimp only at hreply
    split at hreply
    · cases hreply
    · cases hreply
  | policy =>
    unfold PolicyRuntimeAdapter.prepare at hreply
    dsimp only at hreply
    split at hreply
    · cases hreply
    · cases hreply
  | dns =>
    dsimp only at hreply
    rcases DnsRuntimeAdapter.prepare_cases task conditions s with ⟨message, dns, he, -⟩ | he
    · rw [he] at hreply
      cases hreply
    · rw [he] at hreply
      cases hreply

/-- **A reload commits every value at most once, and none but its own.** -/
def ownershipProof (changedComponents : List TransactionalReloadComponent) :
    ExecutorProof (fun _ => Eq) Claims CommitsOwn (createRuntimeComponents changedComponents) where
  preparing es pending := ∀ c value, (⟨c, .outbound value⟩ : RuntimeEntryPrepared) ∈ es →
    c = .outbound ∧ value ∈ pending
  committing es done pending := names es = createRuntimeComponents changedComponents ∧
    ∀ c value, (⟨c, .outbound value⟩ : RuntimeEntryPrepared) ∈ es →
      c = .outbound ∧ (.outbound ∉ names done → value ∈ pending)
  recovering _ _ _ := True
  cleaning _ _ _ _ := True
  preparing_wait es operation pending pending' hearly hr h := by
    subst hr
    refine ⟨fun c value heq => ?_, h⟩
    subst heq
    cases hearly
  committing_wait es done entry rest pending pending' hsplit hr h := by
    subst hr
    refine ⟨fun c value heq => ?_, h⟩
    cases heq
    have hmem : (⟨c, .outbound value⟩ : RuntimeEntryPrepared) ∈ es :=
      hsplit ▸ List.mem_append_right _ List.mem_cons_self
    obtain ⟨rfl, hpending⟩ := h.2 c value hmem
    have hord := createRuntimeComponents_ordered changedComponents
    rw [← h.1, hsplit] at hord
    exact hpending (not_mem_of_split hord)
  recovering_wait es rest entry pending pending' hr h :=
    ⟨fun c value heq => (nomatch heq), trivial⟩
  cleaning_wait ok es rest entry pending pending' hr h :=
    ⟨fun c value heq => (nomatch heq), trivial⟩
  simple phase pending r pending' h hs c value hm := (nomatch hm)
  prepare_ok es component rest pending prepared pending' hnext h hs c value hm := by
    rcases List.mem_append.mp hm with hm | hm
    · obtain ⟨hc, hv⟩ := h c value hm
      refine ⟨hc, ?_⟩
      obtain ⟨-, rfl⟩ := hs
      cases prepared with
      | outbound value' => exact List.mem_cons_of_mem _ hv
      | controlPlane => exact hv
      | router transactionId => exact hv
      | policy transactionId => exact hv
      | dns value' => exact hv
    · cases List.mem_singleton.mp hm
      obtain ⟨hc, rfl⟩ := hs.outbound
      exact ⟨hc, List.mem_cons_self⟩
  prepare_error es component rest pending message pending' hnext h hs := by
    obtain ⟨-, rfl⟩ := hs
    exact h
  healthCheck es entry pending r pending' _ h hs := by
    obtain ⟨-, rfl⟩ := hs
    exact h
  prepared es pending hall h := ⟨hall, fun c value hm => ⟨(h c value hm).1, fun _ => (h c value hm).2⟩⟩
  commit_ok es done entry rest pending pending' hsplit h hs := by
    refine ⟨h.1, fun c value hm => ?_⟩
    obtain ⟨rfl, hpending⟩ := h.2 c value hm
    refine ⟨rfl, fun hnot => ?_⟩
    rw [mem_names_append, not_or] at hnot
    obtain ⟨-, rfl⟩ := hs
    obtain ⟨component, prepared⟩ := entry
    have hv := hpending hnot.1
    cases prepared with
    | outbound value' =>
      have hmem : (⟨component, .outbound value'⟩ : RuntimeEntryPrepared) ∈ es :=
        hsplit ▸ List.mem_append_right _ List.mem_cons_self
      exact absurd (h.2 component value' hmem).1.symm hnot.2
    | controlPlane => exact hv
    | router transactionId => exact hv
    | policy transactionId => exact hv
    | dns value' => exact hv
  commit_error es done entry rest pending message pending' hsplit h hs := ⟨trivial, fun _ => trivial⟩
  committed es pending h := trivial
  abandoned es pending h := ⟨trivial, trivial⟩
  rollback es rest entry pending r pending' h hs := trivial
  recovered es pending h := trivial
  cleanup ok es rest entry pending r pending' h hs := trivial

def callClaims : (call : Call) → call.Reply → List OutboundRuntimePrepared →
    List OutboundRuntimePrepared
  | .operation operation, reply, pending => claims operation reply pending
  | .shadow, _, pending => pending
  | .commitRuntimeConfig, _, pending => pending

/-- However its calls are answered, the program commits pending values only. -/
def OwnsOnly (pending : List OutboundRuntimePrepared) (p : ReloadProgram) : Prop :=
  Resumption.wp (fun _ => Eq)
    (fun call pending reply pending' => (∃ (task : ReloadTask) (s t : RuntimeHost),
      Calls task call s reply t) ∧ pending' = callClaims call reply pending)
    (fun call pending => ∀ operation, call = .operation operation → CommitsOwn operation pending)
    p (fun _ _ => True) pending

theorem execute_ownsOnly (task : ReloadTask) : OwnsOnly [] (execute task) := by
  have hexecute := (ownershipProof task.changedComponents).execute_wp (s := [])
    fun c value hm => (nomatch hm)
  refine Resumption.wp_bind (Resumption.wp_mono ?_
    (Resumption.wp_translate (fun _ _ _ hr => hr) ?_ ?_ hexecute))
  · rintro ⟨error | fields, fields'⟩ pending -
    · exact trivial
    · unfold afterExecute
      dsimp only
      split
      · intro pending' hr
        exact ⟨fun operation heq => (nomatch heq), fun r pending'' he => trivial⟩
      · exact trivial
  · rintro operation pending reply pending' ⟨⟨task, s, t, conditions, hs⟩, hclaims⟩
    exact ⟨⟨task, s, t, conditions, congrArg id hs⟩, hclaims⟩
  · rintro operation pending hcommits operation' heq
    cases heq
    exact hcommits

/-- **The program of a reload owns what it commits.** -/
theorem launch_ownsOnly (host : RuntimeHost) (candidate : SepigsConfig) (now : Nat) :
    OwnsOnly [] (launch host candidate now).1 := by
  unfold launch
  split
  · next task _ _ =>
    unfold program
    split
    · intro pending hr
      cases hr
      refine ⟨fun operation heq => (nomatch heq), ?_⟩
      rintro (error | _) pending' ⟨-, rfl⟩
      · exact trivial
      · exact execute_ownsOnly task
    · exact execute_ownsOnly task
  · exact trivial

/-- A call of a reload beside the values of others. -/
theorem Owned.calls {before pending after : List OutboundRuntimePrepared} {s t : RuntimeHost}
    {registered : List RuntimeEntry} (h : Owned (before ++ pending ++ after) s registered)
    {task : ReloadTask} {call : Call} {reply : call.Reply}
    (hcommits : ∀ operation, call = .operation operation → CommitsOwn operation pending)
    (hs : Calls task call s reply t) :
    ∃ registered', (∀ e ∈ registered, e ∈ registered') ∧
      Owned (before ++ callClaims call reply pending ++ after) t registered' := by
  obtain ⟨conditions, hs⟩ := hs
  cases call with
  | operation operation => exact h.performs (hcommits operation rfl) ⟨conditions, hs⟩
  | shadow =>
    obtain rfl : s = t := congrArg Prod.snd hs
    exact ⟨registered, fun _ he => he, h⟩
  | commitRuntimeConfig =>
    cases hs
    exact ⟨registered, fun _ he => he, h.quiet rfl (Nat.le_refl _)⟩

end Sepigs
