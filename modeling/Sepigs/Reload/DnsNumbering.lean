import Sepigs.Dns.GenerationUsage
import Sepigs.Lib.JsString
import Sepigs.Reload.ProgramRule

/-!
# The numbers of the DNS generations

A failed reload gives its number to the next one, so the id of a DNS candidate is not
its own.  But DNS is published last, and its commit has no `await` at which the deadline
could overtake it: a DNS candidate that enters the store belongs to a reload that
commits, and its number is not used again.

`dnsProof` says so of one reload: the store has no generation of the reload's number
before the DNS commit, and no DNS commit is taken back.
-/

namespace Sepigs

open RuntimeReloadIntegration

namespace RuntimeTransaction

/-- The id of a DNS candidate. -/
def dnsId (n : Nat) : String := s!"runtime-control-{n}" ++ "-dns"

theorem dnsId_injective {m n : Nat} (h : dnsId m = dnsId n) : m = n := by
  have hid : "runtime-control-" ++ toString m ++ "-dns" = "runtime-control-" ++ toString n ++ "-dns" := h
  have hnumber := String.append_right_inj _ |>.mp (String.append_left_inj _ |>.mp hid)
  exact JsString.toString_injective hnumber

theorem dnsId_ne_initial (n : Nat) : dnsId n ≠ "dns-generation-0" := by
  intro h
  have hlist : (dnsId n).toList.head? = some 'd' := by
    rw [h]
    rfl
  have hid : dnsId n = "runtime-control-" ++ toString n ++ "-dns" := rfl
  rw [hid] at hlist
  simp at hlist

/-- No number above `top` is in use. -/
def NumbersFree (top : Nat) (s : RuntimeHost) : Prop :=
  ∀ k, top < k → s.dns.generations.get (dnsId k) = none

/-! ## What the operations do to the store -/

/-- The DNS generations are as they were, or fewer. -/
structure DnsFewer (s t : RuntimeHost) : Prop where
  generation : t.generation = s.generation
  dnsCommitted : t.dnsCommitted = s.dnsCommitted
  nextRef : s.nextRef ≤ t.nextRef
  generations : ∀ id, s.dns.generations.get id = none → t.dns.generations.get id = none

/-- An operation of another component. -/
structure DnsSame (s t : RuntimeHost) : Prop where
  generation : t.generation = s.generation
  dnsCommitted : t.dnsCommitted = s.dnsCommitted
  nextRef : s.nextRef ≤ t.nextRef
  activeGeneration : t.dns.activeGeneration = s.dns.activeGeneration
  generations : t.dns.generations = s.dns.generations
  state : t.dns.state = s.dns.state

theorem DnsSame.refl (s : RuntimeHost) : DnsSame s s :=
  ⟨rfl, rfl, Nat.le_refl _, rfl, rfl, rfl⟩

theorem DnsSame.fewer {s t : RuntimeHost} (h : DnsSame s t) : DnsFewer s t :=
  ⟨h.generation, h.dnsCommitted, h.nextRef, fun id hnone => by rw [h.generations]; exact hnone⟩

theorem DnsFewer.refl (s : RuntimeHost) : DnsFewer s s :=
  (DnsSame.refl s).fewer

theorem DnsFewer.trans {s t u : RuntimeHost} (h : DnsFewer s t) (h' : DnsFewer t u) :
    DnsFewer s u :=
  ⟨h'.generation.trans h.generation, h'.dnsCommitted.trans h.dnsCommitted,
    Nat.le_trans h.nextRef h'.nextRef, fun id hnone => h'.generations id (h.generations id hnone)⟩

theorem NumbersFree.fewer {top : Nat} {s t : RuntimeHost} (h : NumbersFree top s)
    (hfewer : DnsFewer s t) : NumbersFree top t :=
  fun k hk => hfewer.generations _ (h k hk)

section Operations

variable {task : ReloadTask} {s t : RuntimeHost}

theorem prepare_dns (task : ReloadTask) (conditions : Conditions) (s : RuntimeHost)
    (component : TransactionalReloadComponent) :
    DnsSame s (s.prepare task conditions component).2 ∧
      (∀ value, (s.prepare task conditions component).1 ≠ .ok (.dns value)) ∨
    component = .dns ∧ (s.prepare task conditions component).1 =
        .ok (.dns (DnsRuntimeAdapter.preparedValue task conditions s)) ∧
      (s.prepare task conditions component).2 =
        { s.setDnsCommitted (DnsRuntimeAdapter.preparedValue task conditions s) false with
          nextRef := s.nextRef + 1
          dns := s.dns.setState (DnsRuntimeAdapter.candidateGeneration task s)
            fun _ => ⟨0, 0, false⟩ } := by
  cases component with
  | metrics =>
    refine Or.inl ⟨DnsSame.refl s, fun value h => ?_⟩
    unfold RuntimeHost.prepare checked at h
    cases hrejection : conditions.rejection <;> rw [hrejection] at h <;> cases h
  | dashboard =>
    refine Or.inl ⟨DnsSame.refl s, fun value h => ?_⟩
    unfold RuntimeHost.prepare checked at h
    cases hrejection : conditions.rejection <;> rw [hrejection] at h <;> cases h
  | router =>
    unfold RuntimeHost.prepare RouterRuntimeAdapter.prepare
    dsimp only
    split
    · exact Or.inl ⟨⟨rfl, rfl, Nat.le_refl _, rfl, rfl, rfl⟩, fun value h => nomatch h⟩
    · exact Or.inl ⟨⟨rfl, rfl, Nat.le_refl _, rfl, rfl, rfl⟩, fun value h => nomatch h⟩
  | policy =>
    unfold RuntimeHost.prepare PolicyRuntimeAdapter.prepare
    dsimp only
    split
    · exact Or.inl ⟨⟨rfl, rfl, Nat.le_refl _, rfl, rfl, rfl⟩, fun value h => nomatch h⟩
    · exact Or.inl ⟨⟨rfl, rfl, Nat.le_refl _, rfl, rfl, rfl⟩, fun value h => nomatch h⟩
  | outbound =>
    unfold RuntimeHost.prepare
    dsimp only
    rcases OutboundRuntimeAdapter.prepare_cases task conditions s with
      ⟨message, registry, he, -⟩ | he
    · rw [he]
      exact Or.inl ⟨⟨rfl, rfl, Nat.le_refl _, rfl, rfl, rfl⟩, fun value h => nomatch h⟩
    · rw [he]
      refine Or.inl ⟨⟨rfl, rfl, ?_, rfl, rfl, rfl⟩, fun value h => nomatch h⟩
      show s.nextRef ≤ s.nextRef + 1 + task.candidate.outbounds.length
      omega
  | dns =>
    unfold RuntimeHost.prepare
    dsimp only
    rcases DnsRuntimeAdapter.prepare_cases task conditions s with ⟨message, dns, he, hdns⟩ | he
    · rw [he]
      rcases hdns with rfl | rfl
      · exact Or.inl ⟨⟨rfl, rfl, Nat.le_refl _, rfl, rfl, rfl⟩, fun value h => nomatch h⟩
      · exact Or.inl ⟨⟨rfl, rfl, Nat.le_refl _, rfl, rfl, rfl⟩, fun value h => nomatch h⟩
    · rw [he]
      exact Or.inr ⟨rfl, rfl, rfl⟩

theorem commit_dns (conditions : Conditions) (s : RuntimeHost) (prepared : RuntimePrepared) :
    DnsSame s (s.commit conditions prepared).2 ∧ (∀ value, prepared ≠ .dns value) ∨
    ∃ value, prepared = .dns value ∧
      s.commit conditions prepared = DnsRuntimeAdapter.commit value s := by
  cases prepared with
  | controlPlane => exact Or.inl ⟨DnsSame.refl s, fun value h => nomatch h⟩
  | router transactionId =>
    refine Or.inl ⟨?_, fun value h => nomatch h⟩
    show DnsSame s (s.commitRouting transactionId .router).2
    unfold RuntimeHost.commitRouting
    split
    · exact ⟨rfl, rfl, Nat.le_refl _, rfl, rfl, rfl⟩
    · exact DnsSame.refl s
  | policy transactionId =>
    refine Or.inl ⟨?_, fun value h => nomatch h⟩
    show DnsSame s (s.commitRouting transactionId .policy).2
    unfold RuntimeHost.commitRouting
    split
    · exact ⟨rfl, rfl, Nat.le_refl _, rfl, rfl, rfl⟩
    · exact DnsSame.refl s
  | outbound value =>
    refine Or.inl ⟨?_, fun value h => nomatch h⟩
    show DnsSame s (OutboundRuntimeAdapter.commit value s).2
    unfold OutboundRuntimeAdapter.commit
    split
    · exact DnsSame.refl s
    · dsimp only
      split
      · split
        · exact ⟨rfl, rfl, Nat.le_refl _, rfl, rfl, rfl⟩
        · unfold OutboundRuntimeAdapter.commitFailed
          split
          · exact ⟨rfl, rfl, Nat.le_refl _, rfl, rfl, rfl⟩
          · exact ⟨rfl, rfl, Nat.le_refl _, rfl, rfl, rfl⟩
      · exact ⟨rfl, rfl, Nat.le_refl _, rfl, rfl, rfl⟩
  | dns value => exact Or.inr ⟨value, rfl, rfl⟩

/-- A DNS value that was not committed has nothing to take back. -/
theorem rollback_dns {conditions : Conditions} {prepared : RuntimePrepared}
    (h : ∀ value, prepared = .dns value → s.dnsCommitted value.candidateGeneration.ref = false) :
    DnsSame s (s.rollback conditions prepared).2 := by
  cases prepared with
  | controlPlane => exact DnsSame.refl s
  | router transactionId => exact ⟨rfl, rfl, Nat.le_refl _, rfl, rfl, rfl⟩
  | policy transactionId => exact ⟨rfl, rfl, Nat.le_refl _, rfl, rfl, rfl⟩
  | outbound value =>
    show DnsSame s (OutboundRuntimeAdapter.rollback value s).2
    unfold OutboundRuntimeAdapter.rollback
    dsimp only
    split
    · split
      · exact DnsSame.refl s
      · split
        · exact ⟨rfl, rfl, Nat.le_refl _, rfl, rfl, rfl⟩
        · exact ⟨rfl, rfl, Nat.le_refl _, rfl, rfl, rfl⟩
    · exact ⟨rfl, rfl, Nat.le_refl _, rfl, rfl, rfl⟩
  | dns value =>
    have huncommitted := h value rfl
    show DnsSame s (DnsRuntimeAdapter.rollback value s).2
    unfold DnsRuntimeAdapter.rollback
    rw [huncommitted]
    refine ⟨rfl, ?_, Nat.le_refl _, rfl, rfl, rfl⟩
    show Function.update s.dnsCommitted value.candidateGeneration.ref false = s.dnsCommitted
    rw [← huncommitted, Function.update_eq_self]

theorem cleanup_dns (s : RuntimeHost) (prepared : RuntimePrepared) :
    DnsSame s (s.cleanup prepared).2 ∨
      (s.cleanup prepared).2 = { s with dns := s.dns.releaseDrained } := by
  cases prepared with
  | controlPlane => exact Or.inl (DnsSame.refl s)
  | router transactionId => exact Or.inl ⟨rfl, rfl, Nat.le_refl _, rfl, rfl, rfl⟩
  | policy transactionId => exact Or.inl ⟨rfl, rfl, Nat.le_refl _, rfl, rfl, rfl⟩
  | outbound value =>
    obtain ⟨result, registry, flags, hcleanup, -⟩ := OutboundRuntimeAdapter.cleanup_spec value s
    show DnsSame s (OutboundRuntimeAdapter.cleanup value s).2 ∨ _
    rw [hcleanup]
    exact Or.inl ⟨rfl, rfl, Nat.le_refl _, rfl, rfl, rfl⟩
  | dns value => exact Or.inr rfl

end Operations

/-! ## One reload -/

/-- A DNS candidate of the reload, prepared and not committed. -/
structure DnsCandidate (task : ReloadTask) (value : DnsRuntimePrepared) (s : RuntimeHost) : Prop where
  id : value.candidateGeneration.id = dnsId task.nextGeneration
  below : value.candidateGeneration.ref < s.nextRef
  uncommitted : s.dnsCommitted value.candidateGeneration.ref = false

/-- Before the DNS commit. -/
structure DnsUnpublished (task : ReloadTask) (es : List RuntimeEntryPrepared) (s : RuntimeHost) :
    Prop where
  generation : s.generation + 1 = task.nextGeneration
  free : NumbersFree s.generation s
  candidates : ∀ c value, (⟨c, .dns value⟩ : RuntimeEntryPrepared) ∈ es →
    c = .dns ∧ DnsCandidate task value s

/-- After it, or without one. -/
structure DnsPublished (task : ReloadTask) (s : RuntimeHost) : Prop where
  generation : s.generation + 1 = task.nextGeneration
  free : NumbersFree task.nextGeneration s

/-- What holds of the host when a DNS candidate is committed or taken back. -/
def DnsWatched (task : ReloadTask) (op : RuntimeOperation) (s : RuntimeHost) : Prop :=
  match op with
  | .commit ⟨_, .dns value⟩ =>
    DnsCandidate task value s ∧ s.dns.generations.get value.candidateGeneration.id = none
  | .rollback ⟨_, .dns value⟩ => s.dnsCommitted value.candidateGeneration.ref = false
  | _ => True

section Rule

variable {task : ReloadTask} {s t : RuntimeHost} {es done rest : List RuntimeEntryPrepared}
  {entry : RuntimeEntryPrepared}

theorem DnsCandidate.fewer {value : DnsRuntimePrepared} (h : DnsCandidate task value s)
    (hfewer : DnsFewer s t) : DnsCandidate task value t :=
  ⟨h.id, Nat.lt_of_lt_of_le h.below hfewer.nextRef, by rw [hfewer.dnsCommitted]; exact h.uncommitted⟩

theorem DnsUnpublished.fewer (h : DnsUnpublished task es s) (hfewer : DnsFewer s t) :
    DnsUnpublished task es t where
  generation := by
    rw [hfewer.generation]
    exact h.generation
  free := by
    rw [hfewer.generation]
    exact h.free.fewer hfewer
  candidates := by
    intro c value hmem
    obtain ⟨hc, hcandidate⟩ := h.candidates c value hmem
    exact ⟨hc, hcandidate.fewer hfewer⟩

theorem DnsPublished.fewer (h : DnsPublished task s) (hfewer : DnsFewer s t) :
    DnsPublished task t :=
  ⟨by rw [hfewer.generation]; exact h.generation, h.free.fewer hfewer⟩

theorem DnsUnpublished.published (h : DnsUnpublished task es s) : DnsPublished task s := by
  refine ⟨h.generation, fun k hk => h.free k ?_⟩
  have := h.generation
  omega

/-- DNS is committed after everything else. -/
theorem dns_notMem_of_split (hnames : names es = createRuntimeComponents task.changedComponents)
    (hsplit : es = done ++ entry :: rest) : .dns ∉ names done := by
  intro hmem
  have hordered := createRuntimeComponents_ordered task.changedComponents
  rw [← hnames, hsplit] at hordered
  have hlt := rank_lt_of_split hordered hmem
  have hle : entry.component.rank ≤ TransactionalReloadComponent.dns.rank := by
    cases entry.component <;> decide
  omega

theorem DnsUnpublished.watched (h : DnsUnpublished task es s) (hmem : entry ∈ es) :
    DnsWatched task (.commit entry) s ∧ DnsWatched task (.rollback entry) s := by
  obtain ⟨c, prepared⟩ := entry
  cases prepared with
  | dns value =>
    obtain ⟨-, hcandidate⟩ := h.candidates c value hmem
    refine ⟨⟨hcandidate, ?_⟩, hcandidate.uncommitted⟩
    rw [hcandidate.id]
    have := h.generation
    exact h.free _ (by omega)
  | controlPlane => exact ⟨trivial, trivial⟩
  | router transactionId => exact ⟨trivial, trivial⟩
  | policy transactionId => exact ⟨trivial, trivial⟩
  | outbound value => exact ⟨trivial, trivial⟩

theorem DnsUnpublished.prepare (hid : task.candidateGenerationId = s!"runtime-control-{task.nextGeneration}")
    (h : DnsUnpublished task es s) {component : TransactionalReloadComponent}
    {reply : Except String RuntimePrepared} (hs : Performs task (.prepare component) s reply t) :
    DnsUnpublished task es t ∧ ∀ prepared, reply = .ok prepared →
      DnsUnpublished task (es ++ [⟨component, prepared⟩]) t := by
  have hpush : DnsUnpublished task es t → ∀ prepared, (∀ value, prepared ≠ .dns value) →
      DnsUnpublished task (es ++ [⟨component, prepared⟩]) t := by
    intro ht prepared hother
    refine ⟨ht.generation, ht.free, fun c value hmem => ?_⟩
    rcases List.mem_append.mp hmem with hmem | hmem
    · exact ht.candidates c value hmem
    · cases List.mem_singleton.mp hmem
      exact absurd rfl (hother value)
  obtain ⟨message, rfl, rfl⟩ | ⟨conditions, hs⟩ := performs_prepare hs
  · exact ⟨h, fun prepared heq => nomatch heq⟩
  have hreply : (s.prepare task conditions component).1 = reply := congrArg Prod.fst hs
  have hhost : (s.prepare task conditions component).2 = t := congrArg Prod.snd hs
  rcases prepare_dns task conditions s component with ⟨hsame, hother⟩ | ⟨rfl, hvalue, hprepared⟩
  · rw [hhost] at hsame
    have ht := h.fewer hsame.fewer
    refine ⟨ht, fun prepared heq => hpush ht prepared fun value hdns => ?_⟩
    rw [heq, hdns] at hreply
    exact hother value hreply
  · rw [hhost] at hprepared
    rw [hreply] at hvalue
    subst hprepared hvalue
    have hbelow : ∀ value : DnsRuntimePrepared, DnsCandidate task value s →
        DnsCandidate task value { s.setDnsCommitted (DnsRuntimeAdapter.preparedValue task conditions s)
          false with
          nextRef := s.nextRef + 1
          dns := s.dns.setState (DnsRuntimeAdapter.candidateGeneration task s)
            fun _ => ⟨0, 0, false⟩ } := by
      intro value hcandidate
      refine ⟨hcandidate.id, Nat.lt_succ_of_lt hcandidate.below, ?_⟩
      show Function.update s.dnsCommitted s.nextRef false value.candidateGeneration.ref = false
      rw [Function.update_apply]
      split
      · rfl
      · exact hcandidate.uncommitted
    have ht : DnsUnpublished task es { s.setDnsCommitted (DnsRuntimeAdapter.preparedValue task
        conditions s) false with
          nextRef := s.nextRef + 1
          dns := s.dns.setState (DnsRuntimeAdapter.candidateGeneration task s)
            fun _ => ⟨0, 0, false⟩ } :=
      ⟨h.generation, h.free, fun c value hmem =>
        ⟨(h.candidates c value hmem).1, hbelow value (h.candidates c value hmem).2⟩⟩
    refine ⟨ht, fun prepared heq => ?_⟩
    cases heq
    refine ⟨ht.generation, ht.free, fun c value hmem => ?_⟩
    rcases List.mem_append.mp hmem with hmem | hmem
    · exact ht.candidates c value hmem
    · cases List.mem_singleton.mp hmem
      refine ⟨rfl, ?_, Nat.lt_succ_self _, ?_⟩
      · show s!"{task.candidateGenerationId}-dns" = dnsId task.nextGeneration
        rw [hid]
        rfl
      · exact Function.update_self _ _ _

/-- The commit of a candidate whose number is free. -/
theorem DnsUnpublished.commit (h : DnsUnpublished task es s) (hmem : entry ∈ es)
    {reply : Except String Unit} (hs : Performs task (.commit entry) s reply t) :
    DnsUnpublished task es t ∧ (∀ value, entry.prepared = .dns value → reply ≠ .ok ()) ∨
      DnsPublished task t ∧ reply = .ok () ∧ entry.component = .dns := by
  obtain ⟨label, rfl, rfl⟩ | ⟨conditions, hs⟩ := performs_commit hs
  · exact Or.inl ⟨h, fun value _ hok => nomatch hok⟩
  rcases commit_dns conditions s entry.prepared with ⟨hsame, hother⟩ | ⟨value, hvalue, hcommit⟩
  · rw [hs] at hsame
    exact Or.inl ⟨h.fewer hsame.fewer, fun value heq => absurd heq (hother value)⟩
  · obtain ⟨c, prepared⟩ := entry
    obtain rfl : prepared = .dns value := hvalue
    obtain ⟨rfl, hcandidate⟩ := h.candidates c value hmem
    have hs : DnsRuntimeAdapter.commit value s = (reply, t) := hcommit.symm.trans hs
    cases hs
    refine Or.inr ⟨⟨h.generation, fun k hk => ?_⟩, rfl, rfl⟩
    show (s.dns.generations.set value.candidateGeneration.id value.candidateGeneration).get
      (dnsId k) = none
    rw [KeyMap.get_set_of_ne]
    · have := h.generation
      exact h.free k (by omega)
    · rw [hcandidate.id]
      intro heq
      have := dnsId_injective heq
      omega

/-- **DNS is published last**, under a number that is free. -/
def dnsProof (hid : task.candidateGenerationId = s!"runtime-control-{task.nextGeneration}") :
    ExecutorProof (fun _ => DnsFewer) (Performs task) (DnsWatched task)
      (createRuntimeComponents task.changedComponents) where
  preparing := DnsUnpublished task
  committing es done s := names es = createRuntimeComponents task.changedComponents ∧
    (TransactionalReloadComponent.dns ∈ names done → DnsPublished task s) ∧
    (TransactionalReloadComponent.dns ∉ names done → DnsUnpublished task es s)
  recovering es rest s := DnsUnpublished task es s ∧ ∀ entry ∈ rest, entry ∈ es
  cleaning ok _ _ s := s.generation + 1 = task.nextGeneration ∧
    NumbersFree (if ok then task.nextGeneration else s.generation) s
  preparing_wait es op s t hearly hr h := by
    refine ⟨?_, h.fewer hr⟩
    cases op with
    | simple phase => exact trivial
    | prepare component => exact trivial
    | healthCheck entry => exact trivial
    | commit entry => cases hearly
    | rollback entry => cases hearly
    | cleanup entry => cases hearly
  committing_wait es done entry rest s t hsplit hr h := by
    obtain ⟨hnames, hpublished, hunpublished⟩ := h
    have ht := (hunpublished (dns_notMem_of_split hnames hsplit)).fewer hr
    have hmem : entry ∈ es := hsplit ▸ List.mem_append_right _ List.mem_cons_self
    exact ⟨(ht.watched hmem).1, hnames, fun hdone => (hpublished hdone).fewer hr, fun _ => ht⟩
  recovering_wait es rest entry s t hr h := by
    have ht := h.1.fewer hr
    exact ⟨(ht.watched (h.2 entry (List.mem_append_right _ (List.mem_singleton_self _)))).2, ht, h.2⟩
  cleaning_wait ok es rest entry s t hr h := by
    refine ⟨trivial, ?_, ?_⟩
    · rw [hr.generation]
      exact h.1
    · rw [hr.generation]
      exact h.2.fewer hr
  simple phase s reply t h hs := by
    obtain ⟨conditions, hs⟩ := hs
    obtain rfl : s = t := congrArg Prod.snd hs
    exact h
  prepare_ok es component rest s prepared t _ h hs := (h.prepare hid hs).2 prepared rfl
  prepare_error es component rest s message t _ h hs := (h.prepare hid hs).1
  healthCheck es entry s reply t _ h hs := by
    obtain ⟨conditions, hs⟩ := hs
    obtain rfl : s = t := congrArg Prod.snd hs
    exact h
  prepared es s hnames h := ⟨hnames, fun hmem => (nomatch hmem), fun _ => h⟩
  commit_ok es done entry rest s t hsplit h hs := by
    obtain ⟨hnames, -, hunpublished⟩ := h
    have hmem : entry ∈ es := hsplit ▸ List.mem_append_right _ List.mem_cons_self
    refine ⟨hnames, ?_⟩
    rcases (hunpublished (dns_notMem_of_split hnames hsplit)).commit hmem hs with
      ⟨ht, -⟩ | ⟨ht, -, hdns⟩
    · exact ⟨fun _ => ht.published, fun _ => ht⟩
    · refine ⟨fun _ => ht, fun hnot => absurd ?_ hnot⟩
      exact (mem_names_append _).mpr (Or.inr hdns.symm)
  commit_error es done entry rest s message t hsplit h hs := by
    obtain ⟨hnames, -, hunpublished⟩ := h
    have hmem : entry ∈ es := hsplit ▸ List.mem_append_right _ List.mem_cons_self
    rcases (hunpublished (dns_notMem_of_split hnames hsplit)).commit hmem hs with
      ⟨ht, -⟩ | ⟨-, hok, -⟩
    · refine ⟨⟨ht, fun other hother => ?_⟩, fun _ => ⟨ht.generation, ht.free⟩⟩
      rw [hsplit]
      exact List.mem_append_left _ hother
    · cases hok
  committed es s h := by
    obtain ⟨-, hpublished, hunpublished⟩ := h
    by_cases hdns : .dns ∈ names es
    · exact ⟨(hpublished hdns).generation, (hpublished hdns).free⟩
    · have hs := (hunpublished hdns).published
      exact ⟨hs.generation, hs.free⟩
  abandoned es s h := ⟨⟨h, fun _ hmem => hmem⟩, h.generation, h.free⟩
  rollback es rest entry s reply t h hs := by
    obtain ⟨hunpublished, hrest⟩ := h
    obtain ⟨conditions, hs⟩ := hs
    have hmem : entry ∈ es := hrest entry (List.mem_append_right _ (List.mem_singleton_self _))
    have hsame : DnsSame s (s.rollback conditions entry.prepared).2 := by
      refine rollback_dns fun value hvalue => ?_
      obtain ⟨c, prepared⟩ := entry
      obtain rfl : prepared = .dns value := hvalue
      exact (hunpublished.candidates c value hmem).2.uncommitted
    have hhost : (s.rollback conditions entry.prepared).2 = t := congrArg Prod.snd hs
    rw [hhost] at hsame
    exact ⟨hunpublished.fewer hsame.fewer, fun other hother => hrest other
      (List.mem_append_left _ hother)⟩
  recovered es s h := ⟨h.1.generation, h.1.free⟩
  cleanup ok es rest entry s reply t h hs := by
    obtain ⟨conditions, hs⟩ := hs
    have hhost : (s.cleanup entry.prepared).2 = t := congrArg Prod.snd hs
    have hfewer : DnsFewer s t := by
      rcases cleanup_dns s entry.prepared with hsame | hdrained
      · rw [hhost] at hsame
        exact hsame.fewer
      · rw [hhost] at hdrained
        rw [hdrained]
        exact ⟨rfl, rfl, Nat.le_refl _, fun id hnone =>
          DNSGenerationStore.get_releaseDrained_none hnone⟩
    refine ⟨?_, ?_⟩
    · rw [hfewer.generation]
      exact h.1
    · rw [hfewer.generation]
      exact h.2.fewer hfewer

/-- What holds of the host whenever a reload waits. -/
def DnsAwaits (task : ReloadTask) (call : Call) (s : RuntimeHost) : Prop :=
  ∀ op, call = .operation op → DnsWatched task op s

/-- The reload keeps to the rule. -/
def NumbersItsDns (task : ReloadTask) (p : ReloadProgram) (s : RuntimeHost) : Prop :=
  Resumption.wp (fun _ => DnsFewer) (Calls task) (DnsAwaits task) p
    (fun _ s => NumbersFree s.generation s) s

theorem program_numbersItsDns
    (hid : task.candidateGenerationId = s!"runtime-control-{task.nextGeneration}")
    (hgeneration : s.generation + 1 = task.nextGeneration) (hfree : NumbersFree s.generation s) :
    NumbersItsDns task (program task) s := by
  have hstart : DnsUnpublished task [] s := ⟨hgeneration, hfree, fun c value hmem => nomatch hmem⟩
  unfold NumbersItsDns
  refine program_rule (P := DnsUnpublished task [])
    (C := fun ok s => s.generation + 1 = task.nextGeneration ∧
      NumbersFree (if ok then task.nextGeneration else s.generation) s)
    ?_ ?_ ?_ ?_ ?_ ?_ hstart
  · exact fun s s' hr h => ⟨fun op heq => (nomatch heq), h.fewer hr⟩
  · rintro s reply s' ⟨conditions, ht⟩ h
    obtain rfl : s = s' := congrArg Prod.snd ht
    cases reply with
    | error error => exact fun _ => h.free
    | ok u => exact h
  · intro s h
    refine Resumption.wp_mono ?_ (Resumption.wp_watch ?_ ((dnsProof hid).execute_wp h))
    · rintro ⟨error | fields, fields'⟩ s hclean
      · obtain ⟨_, hclean⟩ := hclean
        exact hclean
      · exact hclean
    · intro op s hwatched op' heq
      cases heq
      exact hwatched
  · refine fun s s' hr h => ⟨fun op heq => (nomatch heq), ?_, ?_⟩
    · rw [hr.generation]
      exact h.1
    · exact h.2.fewer hr
  · rintro s reply t ⟨conditions, ht⟩ h
    obtain rfl := congrArg Prod.snd ht
    have hfree : NumbersFree task.nextGeneration s := h.2
    exact fun k hk => hfree k hk
  · exact fun s error h => h.2

/-- What a call of a reload that keeps to the rule does to the store. -/
theorem usage_calls {call : Call} {reply : call.Reply} {handles : List DNSGenerationHandle}
    {flights : List DnsFlight} (h : s.dns.Usage handles flights s.nextRef)
    (hawaits : DnsAwaits task call s) (hs : Calls task call s reply t) :
    t.dns.Usage handles flights t.nextRef := by
  have hmove : DnsSame s t → t.dns.Usage handles flights t.nextRef := fun hsame =>
    h.congr hsame.activeGeneration hsame.generations hsame.state hsame.nextRef
  obtain ⟨conditions, hs⟩ := hs
  cases call with
  | shadow =>
    obtain rfl : s = t := congrArg Prod.snd hs
    exact h
  | commitRuntimeConfig =>
    cases hs
    exact h
  | operation op =>
    have hwatched := hawaits op rfl
    have hs : Performs task op s reply t := ⟨conditions, hs⟩
    cases op with
    | simple phase =>
      obtain ⟨conditions, hs⟩ := hs
      obtain rfl : s = t := congrArg Prod.snd hs
      exact h
    | healthCheck entry =>
      obtain ⟨conditions, hs⟩ := hs
      obtain rfl : s = t := congrArg Prod.snd hs
      exact h
    | prepare component =>
      obtain ⟨message, rfl, rfl⟩ | ⟨conditions, hs⟩ := performs_prepare hs
      · exact h
      have hhost : (s.prepare task conditions component).2 = t := congrArg Prod.snd hs
      rcases prepare_dns task conditions s component with ⟨hsame, -⟩ | ⟨rfl, -, hprepared⟩
      · rw [hhost] at hsame
        exact hmove hsame
      · rw [hhost] at hprepared
        rw [hprepared]
        exact h.prepare rfl
    | commit entry =>
      obtain ⟨label, rfl, rfl⟩ | ⟨conditions, hs⟩ := performs_commit hs
      · exact h
      rcases commit_dns conditions s entry.prepared with ⟨hsame, -⟩ | ⟨value, hvalue, hcommit⟩
      · rw [hs] at hsame
        exact hmove hsame
      · obtain ⟨c, prepared⟩ := entry
        obtain rfl : prepared = .dns value := hvalue
        obtain ⟨hcandidate, hfree⟩ := hwatched
        have hs : DnsRuntimeAdapter.commit value s = (reply, t) := hcommit.symm.trans hs
        cases hs
        exact (h.switchTo hfree hcandidate.below).congr rfl rfl rfl (Nat.le_refl _)
    | rollback entry =>
      obtain ⟨conditions, hs⟩ := hs
      have hhost : (s.rollback conditions entry.prepared).2 = t := congrArg Prod.snd hs
      rw [← hhost]
      have hsame : DnsSame s (s.rollback conditions entry.prepared).2 := by
        refine rollback_dns fun value hvalue => ?_
        obtain ⟨c, prepared⟩ := entry
        obtain rfl : prepared = .dns value := hvalue
        exact hwatched
      exact h.congr hsame.activeGeneration hsame.generations hsame.state hsame.nextRef
    | cleanup entry =>
      obtain ⟨conditions, hs⟩ := hs
      have hhost : (s.cleanup entry.prepared).2 = t := congrArg Prod.snd hs
      rcases cleanup_dns s entry.prepared with hsame | hdrained
      · rw [hhost] at hsame
        exact hmove hsame
      · rw [hhost] at hdrained
        rw [hdrained]
        exact h.releaseDrained

end Rule

end RuntimeTransaction

end Sepigs
