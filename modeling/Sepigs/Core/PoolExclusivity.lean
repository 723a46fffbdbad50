import Sepigs.Core.ConnectionPool

/-!
# One holder for each pooled socket

An idle entry and its timer and listeners belong together: the closures of an entry that
left its bucket are silent, so a late event finds nothing to do.
-/

namespace Sepigs

theorem PoolClosures.not_active_silenced (c : PoolClosures) : ¬ c.silenced.Active := by
  unfold PoolClosures.Active PoolClosures.silenced
  simp

namespace TcpConnectionPool

/-- What the pool promises in every state. -/
structure Exclusive (s : TcpConnectionPool) : Prop where
  slots : ∀ key bucket, s.idle.get key = some bucket → (bucket.map IdleEntry.socket).Nodup
  apart : ∀ key key' bucket bucket', s.idle.get key = some bucket → s.idle.get key' = some bucket' →
    ∀ e ∈ bucket, ∀ e' ∈ bucket', e.socket = e'.socket → key = key'
  size : ∀ key bucket, s.idle.get key = some bucket → bucket.length ≤ s.config.maxIdlePerEndpoint
  holders : ∀ socket ∈ s.sockets, socket.holders ≤ 1
  uncut : ∀ socket ∈ s.sockets, socket.cut = false
  quiet : ∀ i socket, s.sockets[i]? = some socket → 0 < socket.holders →
    ∀ c ∈ s.closures, c.socket = i → ¬ c.Active

/-- A live socket that nobody holds. -/
def Fresh (s : TcpConnectionPool) (socket : Nat) : Prop :=
  ∃ c, s.sockets[socket]? = some c ∧ c.destroyed = false ∧ c.holders = 0

/-- What a call promises beside: only live sockets without a holder are leased again, and
`closeAll` leaves nothing idle. -/
def LeasesFree (s : TcpConnectionPool) : PoolCall → Prop
  | .lease endpoint dials => ∀ socket, (s.lease endpoint dials).1 = some socket →
    s.sockets[socket]? = none ∨ s.Fresh socket
  | .closeAll => s.closeAll.idle = ∅ ∧ ∀ c ∈ s.closeAll.closures, ¬ c.Active
  | _ => True

/-- The entries and their closures know each other. -/
structure Pooled (s : TcpConnectionPool) : Prop where
  closures : ∀ key bucket, s.idle.get key = some bucket → ∀ e ∈ bucket,
    s.closures[e.closures]? = some ⟨key, e.socket, true, true, true⟩
  entry : ∀ i c, s.closures[i]? = some c → c.Active →
    ∃ bucket, s.idle.get c.key = some bucket ∧ ⟨c.socket, i⟩ ∈ bucket
  slots : ∀ key bucket, s.idle.get key = some bucket → (bucket.map IdleEntry.socket).Nodup
  apart : ∀ key key' bucket bucket', s.idle.get key = some bucket → s.idle.get key' = some bucket' →
    ∀ e ∈ bucket, ∀ e' ∈ bucket', e.socket = e'.socket → key = key'
  size : ∀ key bucket, s.idle.get key = some bucket → bucket.length ≤ s.config.maxIdlePerEndpoint
  free : ∀ key bucket, s.idle.get key = some bucket → ∀ e ∈ bucket,
    ∃ socket, s.sockets[e.socket]? = some socket ∧ socket.holders = 0
  holders : ∀ socket ∈ s.sockets, socket.holders ≤ 1
  uncut : ∀ socket ∈ s.sockets, socket.cut = false

theorem pooled_create (config : ConnectionPoolConfig) : (create config).Pooled where
  closures key bucket hget := by cases hget
  entry i c hget := by cases hget
  slots key bucket hget := by cases hget
  apart key key' bucket bucket' hget := by cases hget
  size key bucket hget := by cases hget
  free key bucket hget := by cases hget
  holders socket hmem := absurd hmem List.not_mem_nil
  uncut socket hmem := absurd hmem List.not_mem_nil

section Keeps

variable {s : TcpConnectionPool}

/-- An idle socket is no longer held, and a held socket has no active closures. -/
theorem Pooled.exclusive (h : s.Pooled) : s.Exclusive where
  slots := h.slots
  apart := h.apart
  size := h.size
  holders := h.holders
  uncut := h.uncut
  quiet := by
    intro i socket hget hheld c hmem hsocket hactive
    obtain ⟨j, hc⟩ := List.mem_iff_getElem?.mp hmem
    obtain ⟨bucket, hbucket, hentry⟩ := h.entry j c hc hactive
    obtain ⟨socket', hget', hfree⟩ := h.free c.key bucket hbucket _ hentry
    rw [hsocket, hget] at hget'
    cases hget'
    omega

/-- Two entries of one socket are one entry. -/
theorem Pooled.entry_unique (h : s.Pooled) {key key' : String} {bucket bucket' : List IdleEntry}
    (hget : s.idle.get key = some bucket) (hget' : s.idle.get key' = some bucket')
    {e e' : IdleEntry} (he : e ∈ bucket) (he' : e' ∈ bucket') (hsocket : e.socket = e'.socket) :
    key = key' ∧ e = e' := by
  obtain rfl := h.apart key key' bucket bucket' hget hget' e he e' he' hsocket
  cases hget.symm.trans hget'
  exact ⟨rfl, List.inj_on_of_nodup_map (h.slots key bucket hget) he he' hsocket⟩

/-! ## Changes of one socket -/

theorem free_modify {sockets : List PoolSocket} {j : Nat} (i : Nat) (f : PoolSocket → PoolSocket)
    (hholders : ∀ socket, (f socket).holders ≤ socket.holders)
    (hfree : ∃ socket, sockets[j]? = some socket ∧ socket.holders = 0) :
    ∃ socket, (sockets.modify i f)[j]? = some socket ∧ socket.holders = 0 := by
  obtain ⟨socket, hsocket, hzero⟩ := hfree
  by_cases hi : i = j
  · have hle := hholders socket
    refine ⟨f socket, ?_, by omega⟩
    rw [hi, List.getElem?_modify_eq, hsocket]
    rfl
  · exact ⟨socket, (List.getElem?_modify_ne f sockets hi).trans hsocket, hzero⟩

/-- A socket changes, and nobody takes hold of it. -/
theorem Pooled.modify (h : s.Pooled) (i : Nat) (f : PoolSocket → PoolSocket)
    (hholders : ∀ socket, (f socket).holders ≤ socket.holders)
    (hcut : ∀ socket, s.sockets[i]? = some socket → (f socket).cut = false) :
    { s with sockets := s.sockets.modify i f }.Pooled where
  closures := h.closures
  entry := h.entry
  slots := h.slots
  apart := h.apart
  size := h.size
  free := by
    intro key bucket hget e he
    exact free_modify i f hholders (h.free key bucket hget e he)
  holders := by
    intro socket hmem
    obtain ⟨j, hget⟩ := List.mem_iff_getElem?.mp hmem
    by_cases hi : i = j
    · subst hi
      rw [List.getElem?_modify_eq] at hget
      obtain ⟨old, hold, rfl⟩ := Option.map_eq_some_iff.mp hget
      exact Nat.le_trans (hholders old) (h.holders old (List.mem_of_getElem? hold))
    · rw [List.getElem?_modify_ne f s.sockets hi] at hget
      exact h.holders socket (List.mem_of_getElem? hget)
  uncut := by
    intro socket hmem
    obtain ⟨j, hget⟩ := List.mem_iff_getElem?.mp hmem
    by_cases hi : i = j
    · subst hi
      rw [List.getElem?_modify_eq] at hget
      obtain ⟨old, hold, rfl⟩ := Option.map_eq_some_iff.mp hget
      exact hcut old hold
    · rw [List.getElem?_modify_ne f s.sockets hi] at hget
      exact h.uncut socket (List.mem_of_getElem? hget)

theorem closes_holders (socket : PoolSocket) : (if socket.destroyed then socket
    else { socket with destroyed := true, cut := 0 < socket.holders }).holders ≤ socket.holders := by
  split
  · exact Nat.le_refl _
  · exact Nat.le_refl _

theorem Pooled.closeSocket (h : s.Pooled) {i : Nat}
    (hfree : ∀ socket, s.sockets[i]? = some socket → socket.holders = 0) :
    (s.closeSocket i).Pooled := by
  apply h.modify i _ closes_holders
  intro socket hget
  split
  · exact h.uncut socket (List.mem_of_getElem? hget)
  · show decide (0 < socket.holders) = false
    rw [hfree socket hget]
    rfl

/-- A socket that is in no bucket gets its holder. -/
theorem Pooled.hold (h : s.Pooled) {i : Nat}
    (hgone : ∀ key bucket, s.idle.get key = some bucket → ∀ e ∈ bucket, e.socket ≠ i)
    (hfree : ∀ socket, s.sockets[i]? = some socket → socket.holders = 0) : (s.hold i).Pooled where
  closures := h.closures
  entry := h.entry
  slots := h.slots
  apart := h.apart
  size := h.size
  free := by
    intro key bucket hget e he
    obtain ⟨socket, hsocket, hzero⟩ := h.free key bucket hget e he
    have hne : i ≠ e.socket := Ne.symm (hgone key bucket hget e he)
    exact ⟨socket, (List.getElem?_modify_ne _ s.sockets hne).trans hsocket, hzero⟩
  holders := by
    intro socket hmem
    obtain ⟨j, hget⟩ := List.mem_iff_getElem?.mp hmem
    by_cases hi : i = j
    · subst hi
      rw [TcpConnectionPool.hold, List.getElem?_modify_eq] at hget
      obtain ⟨old, hold, rfl⟩ := Option.map_eq_some_iff.mp hget
      have hzero := hfree old hold
      show old.holders + 1 ≤ 1
      omega
    · rw [TcpConnectionPool.hold, List.getElem?_modify_ne _ s.sockets hi] at hget
      exact h.holders socket (List.mem_of_getElem? hget)
  uncut := by
    intro socket hmem
    obtain ⟨j, hget⟩ := List.mem_iff_getElem?.mp hmem
    by_cases hi : i = j
    · subst hi
      rw [TcpConnectionPool.hold, List.getElem?_modify_eq] at hget
      obtain ⟨old, hold, rfl⟩ := Option.map_eq_some_iff.mp hget
      exact h.uncut old (List.mem_of_getElem? hold)
    · rw [TcpConnectionPool.hold, List.getElem?_modify_ne _ s.sockets hi] at hget
      exact h.uncut socket (List.mem_of_getElem? hget)

theorem Pooled.dial (h : s.Pooled) : s.dial.2.Pooled where
  closures := h.closures
  entry := h.entry
  slots := h.slots
  apart := h.apart
  size := h.size
  free := by
    intro key bucket hget e he
    obtain ⟨socket, hsocket, hzero⟩ := h.free key bucket hget e he
    refine ⟨socket, ?_, hzero⟩
    exact (List.getElem?_append_left (List.getElem?_eq_some_iff.mp hsocket).1).trans hsocket
  holders := by
    intro socket hmem
    rcases List.mem_append.mp hmem with hmem | hmem
    · exact h.holders socket hmem
    · obtain rfl := List.mem_singleton.mp hmem
      exact Nat.le_refl 1
  uncut := by
    intro socket hmem
    rcases List.mem_append.mp hmem with hmem | hmem
    · exact h.uncut socket hmem
    · rw [List.mem_singleton.mp hmem]

/-! ## An entry leaves its bucket -/

/-- The buckets without one entry of one of them; an empty bucket may go. -/
structure Without (s : TcpConnectionPool) (key : String) (before after : List IdleEntry)
    (idle : JsMap String (List IdleEntry)) : Prop where
  other : ∀ k, k ≠ key → idle.get k = s.idle.get k
  own : ∀ bucket, idle.get key = some bucket → bucket = before ++ after
  kept : before ++ after ≠ [] → idle.get key = some (before ++ after)

theorem without_set (s : TcpConnectionPool) (key : String) {before after bucket : List IdleEntry}
    (hbucket : bucket = before ++ after) : s.Without key before after (s.idle.set key bucket) where
  other k hk := (JsMap.get_set _ _ _ _).trans (if_neg hk)
  own b hb := by
    rw [JsMap.get_set, if_pos rfl] at hb
    exact (Option.some.inj hb).symm.trans hbucket
  kept _ := by rw [JsMap.get_set, if_pos rfl, hbucket]

theorem without_delete (s : TcpConnectionPool) (key : String) {before after : List IdleEntry}
    (hempty : before ++ after = []) : s.Without key before after (s.idle.delete key) where
  other k hk := (JsMap.get_delete _ _ _).trans (if_neg hk)
  own b hb := by
    rw [JsMap.get_delete, if_pos rfl] at hb
    cases hb
  kept hne := absurd hempty hne

/-- Every bucket of the smaller map is part of the old one. -/
theorem Without.old {key : String} {before after : List IdleEntry}
    {idle : JsMap String (List IdleEntry)} (hw : s.Without key before after idle) {e : IdleEntry}
    (hget : s.idle.get key = some (before ++ e :: after)) {k : String} {bucket : List IdleEntry}
    (hk : idle.get k = some bucket) :
    ∃ old, s.idle.get k = some old ∧ bucket.Sublist old ∧
      (k = key → bucket = before ++ after) := by
  by_cases hkey : k = key
  · subst hkey
    obtain rfl := hw.own bucket hk
    refine ⟨_, hget, ?_, fun _ => rfl⟩
    exact List.Sublist.append_left (List.sublist_cons_self e after) before
  · rw [hw.other k hkey] at hk
    exact ⟨bucket, hk, List.Sublist.refl _, fun hkey' => absurd hkey' hkey⟩

/-- The socket of the entry that left is in no bucket. -/
theorem Pooled.gone (h : s.Pooled) {key : String} {before after : List IdleEntry} {e : IdleEntry}
    (hget : s.idle.get key = some (before ++ e :: after)) {idle : JsMap String (List IdleEntry)}
    (hw : s.Without key before after idle) {k : String} {bucket : List IdleEntry}
    (hk : idle.get k = some bucket) : ∀ e' ∈ bucket, e'.socket ≠ e.socket := by
  intro e' he' hsocket
  have he : e ∈ before ++ e :: after := List.mem_append_right before List.mem_cons_self
  obtain ⟨old, hold, hsub, hown⟩ := hw.old hget hk
  obtain ⟨rfl, rfl⟩ := h.entry_unique hold hget (hsub.subset he') he hsocket
  rw [hown rfl] at he'
  have hnodup := (h.slots k _ hget).of_map
  rw [List.nodup_middle, List.nodup_cons] at hnodup
  exact hnodup.1 he'

/-- An entry leaves with its closures. -/
theorem Pooled.remove (h : s.Pooled) {key : String} {before after : List IdleEntry} {e : IdleEntry}
    (hget : s.idle.get key = some (before ++ e :: after)) {idle : JsMap String (List IdleEntry)}
    (hw : s.Without key before after idle) (g : PoolClosures → PoolClosures)
    (hg : ∀ c, ¬ (g c).Active) :
    { s with idle := idle, closures := s.closures.modify e.closures g }.Pooled where
  closures := by
    intro k bucket hk e' he'
    obtain ⟨old, hold, hsub, -⟩ := hw.old hget hk
    have hclosures := h.closures k old hold e' (hsub.subset he')
    refine (List.getElem?_modify_ne g s.closures ?_).trans hclosures
    -- one closure list belongs to one entry
    intro heq
    have he : e ∈ before ++ e :: after := List.mem_append_right before List.mem_cons_self
    have hown := h.closures key _ hget e he
    rw [heq, hclosures] at hown
    exact h.gone hget hw hk e' he' (congrArg PoolClosures.socket (Option.some.inj hown))
  entry := by
    intro i c hc hactive
    by_cases hi : e.closures = i
    · subst hi
      rw [List.getElem?_modify_eq] at hc
      obtain ⟨old, -, rfl⟩ := Option.map_eq_some_iff.mp hc
      exact absurd hactive (hg old)
    · rw [List.getElem?_modify_ne g s.closures hi] at hc
      obtain ⟨bucket, hbucket, hmem⟩ := h.entry i c hc hactive
      by_cases hkey : c.key = key
      · rw [hkey, hget] at hbucket
        cases hbucket
        have hstays : (⟨c.socket, i⟩ : IdleEntry) ∈ before ++ after := by
          rcases List.mem_append.mp hmem with hmem | hmem
          · exact List.mem_append_left after hmem
          · rcases List.mem_cons.mp hmem with heq | hmem
            · exact absurd (congrArg IdleEntry.closures heq).symm hi
            · exact List.mem_append_right before hmem
        refine ⟨before ++ after, ?_, hstays⟩
        rw [hkey]
        exact hw.kept (List.ne_nil_of_mem hstays)
      · exact ⟨bucket, (hw.other c.key hkey).trans hbucket, hmem⟩
  slots := by
    intro k bucket hk
    obtain ⟨old, hold, hsub, -⟩ := hw.old hget hk
    exact (h.slots k old hold).sublist (hsub.map IdleEntry.socket)
  apart := by
    intro k k' bucket bucket' hk hk' e₁ he₁ e₂ he₂ hsocket
    obtain ⟨old, hold, hsub, -⟩ := hw.old hget hk
    obtain ⟨old', hold', hsub', -⟩ := hw.old hget hk'
    exact h.apart k k' old old' hold hold' e₁ (hsub.subset he₁) e₂ (hsub'.subset he₂) hsocket
  size := by
    intro k bucket hk
    obtain ⟨old, hold, hsub, -⟩ := hw.old hget hk
    exact Nat.le_trans hsub.length_le (h.size k old hold)
  free := by
    intro k bucket hk e' he'
    obtain ⟨old, hold, hsub, -⟩ := hw.old hget hk
    exact h.free k old hold e' (hsub.subset he')
  holders := h.holders
  uncut := h.uncut

/-! ## The calls -/

theorem takeIdle_cons (key : String) (entry : IdleEntry) (rest : List IdleEntry) :
    s.takeIdle key (entry :: rest) = if s.destroyed entry.socket = true
      then ({ s with idle := s.idle.set key rest.reverse }.silence entry.closures).takeIdle key rest
      else (some entry.socket,
        ({ s with idle := s.idle.set key rest.reverse }.silence entry.closures).hold entry.socket) :=
  rfl

theorem takeIdle_pooled (l : List IdleEntry) (key : String) (s : TcpConnectionPool) (h : s.Pooled)
    (hget : s.idle.get key = some l.reverse) :
    (s.takeIdle key l).2.Pooled ∧ (s.takeIdle key l).2.sockets.length = s.sockets.length ∧
      ∀ socket, (s.takeIdle key l).1 = some socket → s.Fresh socket := by
  induction l generalizing s with
  | nil => exact ⟨h, rfl, fun _ hnone => by cases hnone⟩
  | cons entry rest ih =>
    rw [List.reverse_cons] at hget
    have hwithout := s.without_set key (List.append_nil rest.reverse).symm
    have hpopped := h.remove hget hwithout PoolClosures.silenced PoolClosures.not_active_silenced
    obtain ⟨c, hc, hzero⟩ := h.free key _ hget entry (List.mem_append_right _ List.mem_cons_self)
    rw [takeIdle_cons]
    by_cases hdestroyed : s.destroyed entry.socket = true
    · rw [if_pos hdestroyed]
      exact ih _ hpopped ((JsMap.get_set _ _ _ _).trans (if_pos rfl))
    · rw [if_neg hdestroyed]
      refine ⟨hpopped.hold ?_ ?_, List.length_modify _ _ _, ?_⟩
      · intro k bucket hk
        exact h.gone hget hwithout hk
      · intro socket hsocket
        cases hc.symm.trans hsocket
        exact hzero
      · intro socket heq
        cases heq
        refine ⟨c, hc, ?_, hzero⟩
        unfold destroyed at hdestroyed
        rw [hc] at hdestroyed
        exact Bool.eq_false_iff.mpr hdestroyed

theorem Pooled.reuse (h : s.Pooled) (endpoint : PoolEndpoint) :
    (s.reuse endpoint).2.Pooled ∧ (s.reuse endpoint).2.sockets.length = s.sockets.length ∧
      ∀ socket, (s.reuse endpoint).1 = some socket → s.Fresh socket := by
  have hnone : s.Pooled ∧ s.sockets.length = s.sockets.length ∧
      ∀ socket, (none : Option Nat) = some socket → s.Fresh socket :=
    ⟨h, rfl, fun _ hsome => by cases hsome⟩
  unfold TcpConnectionPool.reuse
  split
  · exact hnone
  · dsimp only
    split
    · exact hnone
    · next bucket hget =>
      apply takeIdle_pooled _ _ s h
      rw [hget, List.reverse_reverse]

theorem Pooled.lease (h : s.Pooled) (endpoint : PoolEndpoint) (dials : Bool) :
    (s.lease endpoint dials).2.Pooled ∧ ∀ socket, (s.lease endpoint dials).1 = some socket →
      s.sockets[socket]? = none ∨ s.Fresh socket := by
  obtain ⟨hpooled, hlength, hfresh⟩ := h.reuse endpoint
  unfold TcpConnectionPool.lease
  split
  · next socket t heq =>
    rw [heq] at hpooled hfresh
    exact ⟨hpooled, fun socket' hsome => .inr (hfresh socket' hsome)⟩
  · next t heq =>
    rw [heq] at hpooled hlength
    split
    · refine ⟨hpooled.dial, fun socket' hsome => .inl ?_⟩
      obtain rfl : t.sockets.length = socket' := Option.some.inj hsome
      rw [List.getElem?_eq_none_iff]
      exact Nat.le_of_eq hlength.symm
    · exact ⟨hpooled, fun _ hsome => by cases hsome⟩

theorem mem_bucket_getD {idle : JsMap String (List IdleEntry)} {key : String} {e : IdleEntry}
    (h : e ∈ (idle.get key).getD []) : ∃ bucket, idle.get key = some bucket ∧ e ∈ bucket := by
  cases hget : idle.get key with
  | none =>
    rw [hget] at h
    exact absurd h List.not_mem_nil
  | some bucket =>
    rw [hget] at h
    exact ⟨bucket, rfl, h⟩

/-- After an entry went to the end of a bucket, a bucket is that one or as it was. -/
theorem bucket_add {idle : JsMap String (List IdleEntry)} {key k : String} {added : IdleEntry}
    {bucket : List IdleEntry} (h : (idle.set key ((idle.get key).getD [] ++ [added])).get k = some bucket) :
    k = key ∧ bucket = (idle.get key).getD [] ++ [added] ∨ idle.get k = some bucket := by
  rw [JsMap.get_set] at h
  by_cases hkey : k = key
  · rw [if_pos hkey] at h
    exact .inl ⟨hkey, (Option.some.inj h).symm⟩
  · rw [if_neg hkey] at h
    exact .inr h

/-- Every entry is an old one or the new one. -/
theorem entry_add {idle : JsMap String (List IdleEntry)} {key k : String} {added e : IdleEntry}
    {bucket : List IdleEntry} (h : (idle.set key ((idle.get key).getD [] ++ [added])).get k = some bucket)
    (he : e ∈ bucket) : (∃ old, idle.get k = some old ∧ e ∈ old) ∨ k = key ∧ e = added := by
  rcases bucket_add h with ⟨rfl, rfl⟩ | hold
  · rcases List.mem_append.mp he with he | he
    · exact .inl (mem_bucket_getD he)
    · exact .inr ⟨rfl, List.mem_singleton.mp he⟩
  · exact .inl ⟨bucket, hold, he⟩

/-- A held socket comes back into a bucket with room. -/
theorem Pooled.add (h : s.Pooled) (key : String) {i : Nat}
    (hgone : ∀ k bucket, s.idle.get k = some bucket → ∀ e ∈ bucket, e.socket ≠ i)
    (hsocket : ∃ socket, s.sockets[i]? = some socket ∧ socket.holders = 0)
    (hroom : ((s.idle.get key).getD []).length < s.config.maxIdlePerEndpoint) :
    TcpConnectionPool.Pooled { s with
      closures := s.closures ++ [⟨key, i, true, true, true⟩]
      idle := s.idle.set key ((s.idle.get key).getD [] ++ [⟨i, s.closures.length⟩]) } := by
  refine ⟨?_, ?_, ?_, ?_, ?_, ?_, h.holders, h.uncut⟩
  · intro k bucket hk e he
    rcases entry_add hk he with ⟨old, hget, hmem⟩ | ⟨rfl, rfl⟩
    · have hclosures := h.closures k old hget e hmem
      exact (List.getElem?_append_left (List.getElem?_eq_some_iff.mp hclosures).1).trans hclosures
    · exact List.getElem?_concat_length
  · intro j c hc hactive
    show ∃ bucket, (s.idle.set _ _).get c.key = some bucket ∧ _
    rw [JsMap.get_set]
    by_cases hj : j < s.closures.length
    · rw [List.getElem?_append_left hj] at hc
      obtain ⟨bucket, hbucket, hmem⟩ := h.entry j c hc hactive
      by_cases hkey : c.key = key
      · rw [if_pos hkey, ← hkey, hbucket]
        exact ⟨_, rfl, List.mem_append_left _ hmem⟩
      · rw [if_neg hkey]
        exact ⟨bucket, hbucket, hmem⟩
    · rw [List.getElem?_append_right (Nat.le_of_not_lt hj), List.getElem?_singleton] at hc
      split at hc
      · cases hc
        have hj' : j = s.closures.length := by omega
        subst hj'
        exact ⟨_, if_pos rfl, List.mem_append_right _ List.mem_cons_self⟩
      · cases hc
  · intro k bucket hk
    rcases bucket_add hk with ⟨rfl, rfl⟩ | hold
    · rw [List.map_append, List.nodup_append]
      refine ⟨?_, List.nodup_singleton _, ?_⟩
      · cases hget : s.idle.get k with
        | none => exact List.nodup_nil
        | some bucket => exact h.slots k bucket hget
      · intro socket hmem socket' hmem'
        obtain ⟨e, he, rfl⟩ := List.mem_map.mp hmem
        obtain ⟨bucket, hbucket, hmem⟩ := mem_bucket_getD he
        rw [List.mem_singleton.mp hmem']
        exact hgone k bucket hbucket e hmem
    · exact h.slots k bucket hold
  · intro k k' bucket bucket' hk hk' e he e' he' hsocket
    rcases entry_add hk he with ⟨old, hget, hmem⟩ | ⟨rfl, rfl⟩
    · rcases entry_add hk' he' with ⟨old', hget', hmem'⟩ | ⟨rfl, rfl⟩
      · exact h.apart k k' old old' hget hget' e hmem e' hmem' hsocket
      · exact absurd hsocket (hgone k old hget e hmem)
    · rcases entry_add hk' he' with ⟨old', hget', hmem'⟩ | ⟨rfl, rfl⟩
      · exact absurd hsocket.symm (hgone k' old' hget' e' hmem')
      · rfl
  · intro k bucket hk
    rcases bucket_add hk with ⟨rfl, rfl⟩ | hold
    · rw [List.length_append]
      exact hroom
    · exact h.size k bucket hold
  · intro k bucket hk e he
    rcases entry_add hk he with ⟨old, hget, hmem⟩ | ⟨-, rfl⟩
    · exact h.free k old hget e hmem
    · exact hsocket

/-- The holder has let go, so the pool may close the socket or keep it. -/
theorem Pooled.release (h : s.Pooled) (endpoint : PoolEndpoint) {i : Nat}
    (hheld : s.sockets[i]?.any (0 < ·.holders) = true) : (s.release endpoint i).Pooled := by
  obtain ⟨held, hget, hpos⟩ := (Option.any_eq_true _ _).mp hheld
  have hone := h.holders held (List.mem_of_getElem? hget)
  have hgone : ∀ k bucket, s.idle.get k = some bucket → ∀ e ∈ bucket, e.socket ≠ i := by
    rintro k bucket hk e he rfl
    obtain ⟨socket, hsocket, hzero⟩ := h.free k bucket hk e he
    cases hget.symm.trans hsocket
    exact absurd hpos (by simp [hzero])
  have hlet := h.modify i (fun c => { c with holders := c.holders - 1 })
    (fun socket => Nat.sub_le _ _) fun socket hsocket => h.uncut socket (List.mem_of_getElem? hsocket)
  have hfree : ∃ socket, (s.sockets.modify i fun c => { c with holders := c.holders - 1 })[i]? =
      some socket ∧ socket.holders = 0 := by
    refine ⟨{ held with holders := held.holders - 1 }, ?_, ?_⟩
    · rw [List.getElem?_modify_eq, hget]
      rfl
    · show held.holders - 1 = 0
      omega
  have hclosed := hlet.closeSocket (i := i) fun socket hsocket => by
    obtain ⟨socket', hsocket', hzero⟩ := hfree
    cases hsocket.symm.trans hsocket'
    exact hzero
  unfold TcpConnectionPool.release
  dsimp only
  split
  · exact hclosed
  · split
    · exact hclosed
    · next hroom => exact hlet.add _ hgone hfree (Nat.lt_of_not_le hroom)

/-- A listener or the timer of an idle entry takes its own entry out. -/
theorem Pooled.removeEntry (h : s.Pooled) {i : Nat} {c : PoolClosures}
    (hc : s.closures[i]? = some c) (hactive : c.Active) (ran : PoolClosures → PoolClosures) :
    ((s.onceRun i ran).removeEntry c.key c.socket).Pooled ∧
      ((s.onceRun i ran).removeEntry c.key c.socket).sockets = s.sockets := by
  obtain ⟨bucket, hget, hmem⟩ := h.entry i c hc hactive
  obtain ⟨before, after, rfl⟩ := List.append_of_mem hmem
  -- no other entry of the bucket has the socket
  have hnodup := h.slots c.key _ hget
  rw [List.map_append, List.map_cons, List.nodup_middle, List.nodup_cons] at hnodup
  have hbefore : ∀ e ∈ before, e.socket ≠ c.socket := by
    intro e he heq
    exact hnodup.1 (List.mem_append_left _ (List.mem_map.mpr ⟨e, he, heq⟩))
  have hindex : (before ++ ⟨c.socket, i⟩ :: after).findIdx?
      (fun candidate => candidate.socket = c.socket) = some before.length := by
    rw [List.findIdx?_append, List.findIdx?_eq_none_iff.mpr, List.findIdx?_cons]
    · simp
    · intro e he
      exact decide_eq_false (hbefore e he)
  have herase : (before ++ (⟨c.socket, i⟩ : IdleEntry) :: after).eraseIdx before.length = before ++ after := by
    rw [List.eraseIdx_append_of_length_le (Nat.le_refl _), Nat.sub_self]
    rfl
  have hlast : (before ++ (⟨c.socket, i⟩ : IdleEntry) :: after)[before.length]? = some ⟨c.socket, i⟩ := by
    rw [List.getElem?_append_right (Nat.le_refl _), Nat.sub_self]
    rfl
  have hremoved : (s.onceRun i ran).removeEntry c.key c.socket = TcpConnectionPool.mk s.config
      (if (before ++ after).isEmpty then s.idle.delete c.key else s.idle.set c.key (before ++ after))
      (s.closures.modify i (PoolClosures.silenced ∘ ran)) s.sockets := by
    unfold TcpConnectionPool.removeEntry
    rw [show (s.onceRun i ran).idle.get c.key = _ from hget]
    dsimp only
    rw [hindex]
    dsimp only
    rw [herase, hlast]
    dsimp only [silence, onceRun]
    rw [List.modify_modify_eq]
  have hwithout : s.Without c.key before after
      (if (before ++ after).isEmpty then s.idle.delete c.key else s.idle.set c.key (before ++ after)) := by
    split
    · next hempty => exact s.without_delete c.key (List.isEmpty_iff.mp hempty)
    · exact s.without_set c.key rfl
  rw [hremoved]
  exact ⟨h.remove hget hwithout _ fun c => PoolClosures.not_active_silenced (ran c), rfl⟩

/-- The socket of an idle entry is closed, which cuts nobody off. -/
theorem Pooled.removeEntry_closeSocket (h : s.Pooled) {i : Nat} {c : PoolClosures}
    (hc : s.closures[i]? = some c) (hactive : c.Active) (ran : PoolClosures → PoolClosures) :
    (((s.onceRun i ran).removeEntry c.key c.socket).closeSocket c.socket).Pooled := by
  obtain ⟨hpooled, hsockets⟩ := h.removeEntry hc hactive ran
  apply hpooled.closeSocket
  intro socket hsocket
  obtain ⟨bucket, hget, hmem⟩ := h.entry i c hc hactive
  obtain ⟨socket', hsocket', hzero⟩ := h.free c.key bucket hget _ hmem
  rw [hsockets] at hsocket
  cases hsocket.symm.trans hsocket'
  exact hzero

/-- At most one entry listens on a socket. -/
theorem Pooled.listening_eq (h : s.Pooled) (listens : PoolClosures → Bool) (socket : Nat)
    (hlistens : ∀ c, listens c = true → c.Active) :
    s.listening listens socket = [] ∨
      ∃ i c, s.listening listens socket = [i] ∧ s.closures[i]? = some c ∧ c.Active := by
  have hmem : ∀ i ∈ s.listening listens socket, ∃ c, s.closures[i]? = some c ∧ c.Active ∧
      c.socket = socket := by
    intro i hi
    obtain ⟨c, hc, hboth⟩ := (Option.any_eq_true _ _).mp (List.mem_filter.mp hi).2
    obtain ⟨hsocket, hlisten⟩ := (Bool.and_eq_true _ _).mp hboth
    exact ⟨c, hc, hlistens c hlisten, of_decide_eq_true hsocket⟩
  have hsame : ∀ i ∈ s.listening listens socket, ∀ j ∈ s.listening listens socket, i = j := by
    intro i hi j hj
    obtain ⟨c, hc, hactive, hsocket⟩ := hmem i hi
    obtain ⟨c', hc', hactive', hsocket'⟩ := hmem j hj
    obtain ⟨bucket, hget, hentry⟩ := h.entry i c hc hactive
    obtain ⟨bucket', hget', hentry'⟩ := h.entry j c' hc' hactive'
    have heq := (h.entry_unique hget hget' hentry hentry' (hsocket.trans hsocket'.symm)).2
    exact congrArg IdleEntry.closures heq
  have hnodup : (s.listening listens socket).Nodup := List.nodup_range.filter _
  cases hlist : s.listening listens socket with
  | nil => exact .inl rfl
  | cons i rest =>
    rw [hlist] at hmem hsame hnodup
    obtain ⟨c, hc, hactive, -⟩ := hmem i List.mem_cons_self
    cases rest with
    | nil => exact .inr ⟨i, c, rfl, hc, hactive⟩
    | cons j rest =>
      obtain rfl := hsame i List.mem_cons_self j (List.mem_cons_of_mem i List.mem_cons_self)
      exact absurd List.mem_cons_self (List.nodup_cons.mp hnodup).1

/-- An event of a socket runs the listener of its entry, if there is one. -/
theorem Pooled.runAll (h : s.Pooled) (listens : PoolClosures → Bool) (socket : Nat)
    (hlistens : ∀ c, listens c = true → c.Active)
    (run : TcpConnectionPool → Nat → PoolClosures → TcpConnectionPool)
    (hrun : ∀ i c, s.closures[i]? = some c → c.Active → (run s i c).Pooled) :
    (s.runAll run (s.listening listens socket)).Pooled := by
  rcases h.listening_eq listens socket hlistens with hlist | ⟨i, c, hlist, hc, hactive⟩
  · rw [hlist]
    exact h
  · rw [hlist]
    unfold TcpConnectionPool.runAll
    rw [List.foldl_cons, hc]
    exact hrun i c hc hactive

/-! ## Closing all -/

/-- The sockets alone. -/
def emptied (s : TcpConnectionPool) : TcpConnectionPool := { s with idle := ∅, closures := [] }

/-- With nothing idle and no closures, only the sockets matter. -/
theorem pooled_of_sockets {t : TcpConnectionPool} (hidle : t.idle = ∅)
    (hquiet : ∀ c ∈ t.closures, ¬ c.Active) (hholders : ∀ socket ∈ t.sockets, socket.holders ≤ 1)
    (huncut : ∀ socket ∈ t.sockets, socket.cut = false) : t.Pooled := by
  have hnone : ∀ key bucket, t.idle.get key ≠ some bucket := by
    intro key bucket hget
    rw [hidle] at hget
    cases hget
  exact ⟨fun key bucket hget => absurd hget (hnone key bucket),
    fun i c hc hactive => absurd hactive (hquiet c (List.mem_of_getElem? hc)),
    fun key bucket hget => absurd hget (hnone key bucket),
    fun key _ bucket _ hget => absurd hget (hnone key bucket),
    fun key bucket hget => absurd hget (hnone key bucket),
    fun key bucket hget => absurd hget (hnone key bucket), hholders, huncut⟩

theorem closeAll_loop (l : List IdleEntry) (s : TcpConnectionPool) (h : s.emptied.Pooled)
    (hfree : ∀ e ∈ l, ∃ socket, s.sockets[e.socket]? = some socket ∧ socket.holders = 0) :
    (l.foldl closeEntry s).emptied.Pooled ∧
      ∀ i c, (l.foldl closeEntry s).closures[i]? = some c → c.Active →
        s.closures[i]? = some c ∧ ∀ e ∈ l, e.closures ≠ i := by
  induction l generalizing s with
  | nil => exact ⟨h, fun i c hc _ => ⟨hc, fun e he => absurd he List.not_mem_nil⟩⟩
  | cons e rest ih =>
    obtain ⟨socket, hsocket, hzero⟩ := hfree e List.mem_cons_self
    have hclosed : (s.closeEntry e).emptied.Pooled := h.closeSocket fun socket' hsocket' => by
      cases hsocket.symm.trans hsocket'
      exact hzero
    rw [List.foldl_cons]
    obtain ⟨hpooled, hactive⟩ := ih (s.closeEntry e) hclosed fun e' he' =>
      free_modify e.socket _ closes_holders (hfree e' (List.mem_cons_of_mem e he'))
    refine ⟨hpooled, ?_⟩
    intro i c hc hact
    obtain ⟨hold, hrest⟩ := hactive i c hc hact
    replace hold : (s.closures.modify e.closures PoolClosures.silenced)[i]? = some c := hold
    by_cases hi : e.closures = i
    · rw [hi, List.getElem?_modify_eq] at hold
      obtain ⟨old, -, rfl⟩ := Option.map_eq_some_iff.mp hold
      exact absurd hact old.not_active_silenced
    · rw [List.getElem?_modify_ne _ _ hi] at hold
      refine ⟨hold, ?_⟩
      intro e' he'
      rcases List.mem_cons.mp he' with rfl | he'
      · exact hi
      · exact hrest e' he'

theorem mem_idle (e : IdleEntry) : e ∈ s.idle.values.flatten ↔
    ∃ key bucket, s.idle.get key = some bucket ∧ e ∈ bucket := by
  rw [List.mem_flatten]
  constructor
  · rintro ⟨bucket, hbucket, he⟩
    obtain ⟨⟨key, _⟩, hentry, rfl⟩ := List.mem_map.mp hbucket
    exact ⟨key, _, (JsMap.get_eq_some_iff _ _ _).mpr hentry, he⟩
  · rintro ⟨key, bucket, hget, he⟩
    exact ⟨bucket, List.mem_map.mpr ⟨_, (JsMap.get_eq_some_iff _ _ _).mp hget, rfl⟩, he⟩

/-- After `closeAll` nothing is left. -/
theorem Pooled.closeAll (h : s.Pooled) :
    s.closeAll.Pooled ∧ s.closeAll.idle = ∅ ∧ ∀ c ∈ s.closeAll.closures, ¬ c.Active := by
  have hempty : s.emptied.Pooled :=
    pooled_of_sockets rfl (fun c hc => absurd hc List.not_mem_nil) h.holders h.uncut
  obtain ⟨hpooled, hactive⟩ := closeAll_loop s.idle.values.flatten s hempty fun e he => by
    obtain ⟨key, bucket, hget, hmem⟩ := (mem_idle e).mp he
    exact h.free key bucket hget e hmem
  have hquiet : ∀ c ∈ s.closeAll.closures, ¬ c.Active := by
    intro c hmem hact
    obtain ⟨i, hc⟩ := List.mem_iff_getElem?.mp hmem
    obtain ⟨hold, hnone⟩ := hactive i c hc hact
    obtain ⟨bucket, hget, hentry⟩ := h.entry i c hold hact
    exact hnone _ ((mem_idle _).mpr ⟨c.key, bucket, hget, hentry⟩) rfl
  exact ⟨pooled_of_sockets rfl hquiet hpooled.holders hpooled.uncut, rfl, hquiet⟩

/-! ## Every run -/

theorem Pooled.step (h : s.Pooled) {call : PoolCall} {t : TcpConnectionPool}
    (hstep : s.step call = some t) : t.Pooled := by
  cases call with
  | lease endpoint dials =>
    cases hstep
    exact (h.lease endpoint dials).1
  | release endpoint socket =>
    obtain ⟨hheld, heq⟩ := Option.ite_none_right_eq_some.mp hstep
    cases heq
    exact h.release endpoint hheld
  | destroy socket =>
    cases hstep
    exact h.modify socket _ (fun _ => Nat.le_refl _) fun c hc => h.uncut c (List.mem_of_getElem? hc)
  | close socket =>
    cases hstep
    apply h.runAll (·.onClose) socket (fun c hc => .inr (.inl hc))
    intro i c hc hactive
    exact (h.removeEntry hc hactive _).1
  | error socket =>
    cases hstep
    apply h.runAll (·.onError) socket (fun c hc => .inr (.inr hc))
    intro i c hc hactive
    exact h.removeEntry_closeSocket hc hactive _
  | timeout closures =>
    cases hc : s.closures[closures]? with
    | none => simp [TcpConnectionPool.step, hc] at hstep
    | some c =>
      simp only [TcpConnectionPool.step, hc] at hstep
      obtain ⟨htimer, heq⟩ := Option.ite_none_right_eq_some.mp hstep
      cases heq
      exact h.removeEntry_closeSocket hc (.inl htimer) _
  | closeAll =>
    cases hstep
    exact h.closeAll.1

theorem Pooled.leasesFree (h : s.Pooled) (call : PoolCall) : s.LeasesFree call := by
  cases call with
  | lease endpoint dials => exact (h.lease endpoint dials).2
  | closeAll => exact h.closeAll.2
  | _ => trivial

end Keeps

/-- **Exclusive sockets.**  Through every run of the pool a socket has one place and at most
one holder, and the pool lets go of what it leases and of what it closes. -/
theorem pool_exclusive (config : ConnectionPoolConfig) (calls : List PoolCall) :
    system.Throughout Exclusive (create config) calls ∧
      system.Along LeasesFree (create config) calls := by
  have hstep : ∀ (s : TcpConnectionPool) (call : PoolCall) (t : TcpConnectionPool), s.Pooled →
      system.step s call = some t → t.Pooled := fun s call t h hs => h.step hs
  constructor
  · have hpooled := system.throughout_of_kept Pooled hstep calls _ (pooled_create config)
    exact hpooled.mono fun s h => h.exclusive
  · refine (system.along_true _ calls).of_invariant Pooled ?_ ?_ (pooled_create config)
    · intro s call t h _ hs
      exact hstep s call t h hs
    · intro s call h _
      exact h.leasesFree call

end TcpConnectionPool

end Sepigs
