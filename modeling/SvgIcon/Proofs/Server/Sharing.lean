import SvgIcon.Proofs.Server.Hosts
import SvgIcon.Proofs.Server.Lifecycle

/-!
Servers that share a host.  A port can be bound once at a time, so no two servers listen on the same
one, whatever has been asked of them and however their workers come up.  A start that fails leaves
the other servers and their sockets as they were, and the port of a server that is stopped can be
bound again.  A stop that is broken off has not stopped its server, and leaves the others alone, too.
-/

namespace SvgIcon
namespace Server

variable {σ ι : Type}

/-! ## Ways through a call -/

/-- Nothing has become of the sockets, unless this one has been closed. -/
def MayClose (socket : Nat) (f f' : Ports) : Prop := f' = f ∨ f' = Function.update f socket none

section
variable [DecidableEq ι] (w : ι → Server) (f : Ports) (i : ι)

/-- The ways to claim an address, with what is left of the servers and the sockets. -/
inductive Claim : Except Raised Nat → (ι → Server) → Ports → Prop
  | taken (htaken : ∃ other, f other = some (w i).port) :
      Claim (.error (.failure (.portInUse (w i).port))) w f
  | failed {e : Raised} (he : ∀ port, e ≠ .failure (.portInUse port)) : Claim (.error e) w f
  | claimed {socket : Nat} {port : Int} (hnew : f socket = none) (hunheld : Unheld socket w)
      (hfree : ∀ other, f other ≠ some port) :
      Claim (.ok socket) (Function.update w i { w i with port })
        (Function.update f socket (some port))

/-- What comes of watching a worker. -/
inductive Seen : Except Raised Unit → Prop
  | started : Seen (.ok ())
  | failed {e : Failure} (he : ∀ port, e ≠ .portInUse port) : Seen (.error (.failure e))
  | foreign {e : Raised} (he : Foreign e) : Seen (.error e)

/-- The ways to give up a worker and a socket. -/
inductive Torn (h : Handles) : Except Raised Unit → (ι → Server) → Ports → Prop
  | closed :
      Torn h (.ok ()) (Function.update w i { w i with handles := none, phase := .stopped })
        (Function.update f h.socket none)
  | refused {e : Raised} {f' : Ports} (he : Foreign e)
      (hf : MayClose h.socket f f') : Torn h (.error e) w f'

/-- The ways to serve a socket, with what is left of the servers and the sockets. -/
inductive Serve (socket : Nat) : Except Raised Unit → (ι → Server) → Ports → Prop
  | listening {worker : Nat} (hworker : Unknown worker w) :
      Serve socket (.ok ())
        (Function.update w i { w i with handles := some { worker, socket }, phase := .listening }) f
  | abandoned {e : Raised} {handles : Option Handles} (he : Foreign e)
      (hhandles : ∀ h, handles = some h → h.socket = socket ∧ Unknown h.worker w) :
      Serve socket (.error e) (Function.update w i { w i with handles }) f
  | adrift {e : Raised} {worker : Nat} (he : Foreign e) (hworker : Unknown worker w) :
      Serve socket (.error e) (Function.update w i { w i with handles := some { worker, socket } })
        (Function.update f socket none)
  | failed {e : Failure} (he : ∀ port, e ≠ .portInUse port) :
      Serve socket (.error (.failure e))
        (Function.update w i { w i with handles := none, phase := .stopped })
        (Function.update f socket none)

/-- The ways of a call to a server at rest, with what is left of the servers and the sockets. -/
inductive Moved : Operation → Except Raised Unit → (ι → Server) → Ports → Prop
  | rejected (hphase : (w i).phase = .listening ∨ (w i).phase = .starting) :
      Moved .start (.error (.failure (.portInUse (w i).port))) w f
  | awaited (hphase : (w i).phase = .stopping) : Moved .start (.error (.failure stopping)) w f
  | taken (hphase : (w i).phase = .stopped) (htaken : ∃ other, f other = some (w i).port) :
      Moved .start (.error (.failure (.portInUse (w i).port))) w f
  | failed {e : Raised} {port : Int} (hphase : (w i).phase = .stopped)
      (hhandles : (w i).handles = none) (he : ∀ port, e ≠ .failure (.portInUse port)) :
      Moved .start (.error e) (Function.update w i { w i with port }) f
  | up {answer : Except Raised Unit} {port : Int} {phase : Phase} {socket : Nat}
      {handles : Option Handles} (hphase : (w i).phase = .stopped)
      (hanswer : answer = .ok () ∧ phase = .listening ∧ handles ≠ none ∨
        (∃ e, answer = .error e ∧ Foreign e) ∧ phase = .starting)
      (hnew : f socket = none) (hunheld : Unheld socket w) (hfree : ∀ other, f other ≠ some port)
      (hhandles : ∀ h, handles = some h → h.socket = socket ∧ Unknown h.worker w) :
      Moved .start answer (Function.update w i { w i with port, phase, handles })
        (Function.update f socket (some port))
  | adrift {e : Raised} {port : Int} {h : Handles} (hphase : (w i).phase = .stopped)
      (he : Foreign e) (hnew : f h.socket = none) (hunheld : Unheld h.socket w)
      (hworker : Unknown h.worker w) :
      Moved .start (.error e)
        (Function.update w i { w i with port, phase := .starting, handles := some h }) f
  | idle (hphase : (w i).phase = .stopped) : Moved .stop (.ok ()) w f
  | unserved (hhandles : (w i).handles = none) :
      Moved .stop (.ok ()) (Function.update w i { w i with handles := none, phase := .stopped }) f
  | stopped {h : Handles} (hhandles : (w i).handles = some h) :
      Moved .stop (.ok ()) (Function.update w i { w i with handles := none, phase := .stopped })
        (Function.update f h.socket none)
  | brokenOff {h : Handles} {e : Raised} {f' : Ports} (hhandles : (w i).handles = some h)
      (he : Foreign e) (hf : MayClose h.socket f f') :
      Moved .stop (.error e) (Function.update w i { w i with phase := .stopping }) f'

end

/-- The worker of a server has no other's socket to let go. -/
theorem LetsGo.mayClose {w : ι → Server} {f f' : Ports} {i : ι} {h : Handles}
    (hletsGo : LetsGo h.worker w f f') (hhandles : (w i).handles = some h)
    (hapart : ∀ j h', j ≠ i → (w j).handles = some h' → h'.worker ≠ h.worker) :
    MayClose h.socket f f' := by
  rcases hletsGo with rfl | ⟨j, h', hj, hworker, rfl⟩
  · exact .inl rfl
  · by_cases hji : j = i
    · subst hji
      obtain rfl : h' = h := Option.some.inj (hj.symm.trans hhandles)
      exact .inr rfl
    · exact absurd hworker (hapart j h' hji hj)

theorem MayClose.trans {f f₁ f₂ : Ports} {socket : Nat} (h₁ : MayClose socket f f₁)
    (h₂ : MayClose socket f₁ f₂) : MayClose socket f f₂ := by
  rcases h₁ with rfl | rfl
  · exact h₂
  · rcases h₂ with rfl | rfl
    · exact .inr rfl
    · exact .inr (Function.update_idem _ _ _)

theorem MayClose.update {f f' : Ports} {socket : Nat} (h : MayClose socket f f') :
    Function.update f' socket none = Function.update f socket none := by
  rcases h with rfl | rfl
  · rfl
  · exact Function.update_idem _ _ _

/-- What is true of all handles was true of them before a server that had none got its own. -/
theorem forall_handles_of_update [DecidableEq ι] {P : Handles → Prop} {w : ι → Server} {i : ι}
    {v : Server} (h : ∀ j h, (Function.update w i v j).handles = some h → P h)
    (hhandles : (w i).handles = none) : ∀ j h, (w j).handles = some h → P h := by
  intro j own hj
  by_cases hji : j = i
  · subst hji
    exact absurd (hhandles.symm.trans hj) nofun
  · exact h j own (by rwa [Function.update_of_ne hji])

theorem Unknown.of_update [DecidableEq ι] {worker : Nat} {w : ι → Server} {i : ι} {v : Server}
    (hworker : Unknown worker (Function.update w i v)) (hhandles : (w i).handles = none) :
    Unknown worker w :=
  forall_handles_of_update hworker hhandles

theorem Unheld.of_update [DecidableEq ι] {socket : Nat} {w : ι → Server} {i : ι} {v : Server}
    (hsocket : Unheld socket (Function.update w i v)) (hhandles : (w i).handles = none) :
    Unheld socket w :=
  forall_handles_of_update hsocket hhandles

section
variable [DecidableEq ι] {m : Machine σ} {host : Host σ ι} (hm : m.Hosts host)
  {w : ι → Server} {f : Ports} {i : ι}
include hm

theorem claimAddress_leads (hhost : (w i).host = host.name) :
    host.Leads w f (claimAddress m (host.own i)) (Claim w f i) := by
  refine .get fun s hw => ?_
  show host.Leads w f (_ >>= _) _
  simp only [hw, hhost]
  refine .bind (.openSocket hm fun socket hnew hunheld => ?_)
  -- a socket that is given up has been bound to nothing
  have hclosed : Function.update f socket none = f := by
    rw [← hnew, Function.update_eq_self]
  have hother : ∀ {port : Int}, (∀ other, other ≠ socket → f other ≠ some port) →
      ∀ other, f other ≠ some port := by
    intro port hfree other hport
    by_cases hsocket : other = socket
    · subst hsocket
      exact absurd (hnew.symm.trans hport) nofun
    · exact hfree other hsocket hport
  refine .bind (.deals (hm.bind socket (w i).port) fun answer f' hanswer => ?_)
  generalize hport : (w i).port = port at hanswer
  cases hanswer with
  | inUse _ htaken =>
    refine .bind (.close hm (.pure ?_))
    rw [hclosed, ← hport]
    obtain ⟨other, _, htaken⟩ := htaken
    exact .taken ⟨other, hport ▸ htaken⟩
  | @refused _ e he =>
    cases e with
    | addressInUse => exact absurd rfl he
    | refused reason =>
      refine .bind (.close hm (.pure ?_))
      rw [hclosed]
      exact .failed nofun
    | fault e => exact .pure (.failed nofun)
  | asked _ hfree => exact .bind (.change hm (.pure (.claimed hnew hunheld (hother hfree))))
  | chosen hfree => exact .bind (.change hm (.pure (.claimed hnew hunheld hfree)))

omit [DecidableEq ι] in
theorem watch_leads (worker : Nat) (deadline : Double) (n : Nat) :
    host.Leads w f (watch m (host.own i) worker deadline n) fun answer w' f' =>
      w' = w ∧ f' = f ∧ Seen answer := by
  induction n with
  | zero => exact .get fun s _ => .pure ⟨rfl, rfl, .failed nofun⟩
  | succ n ih =>
    refine .bind (.quiet (hm.hasStarted worker) fun started => ?_)
    cases started with
    | true => exact .pure ⟨rfl, rfl, .started⟩
    | false =>
      refine .bind (.quiet (hm.isAlive worker) fun alive => ?_)
      cases alive with
      | false => exact .get fun s _ => .pure ⟨rfl, rfl, .failed nofun⟩
      | true =>
        refine .bind (.quiet hm.now fun time => ?_)
        by_cases hlate : deadline.lt time = true
        · simp only [hlate]
          exact .get fun s _ => .pure ⟨rfl, rfl, .failed nofun⟩
        · simp only [hlate]
          exact .bind (.sleep hm ih (.pure ⟨rfl, rfl, .foreign nofun⟩))

omit [DecidableEq ι] in
theorem await_leads (worker : Nat) :
    host.Leads w f (await m (host.own i) worker) fun answer w' f' =>
      w' = w ∧ f' = f ∧ Seen answer := by
  refine .get fun s hw => ?_
  show host.Leads w f (_ >>= _) _
  simp only [hw]
  refine .bind (.quiet hm.now fun time => ?_)
  cases (w i).startupTimeout.double? with
  | some timeout => exact watch_leads hm worker _ _
  | none => exact .pure ⟨rfl, rfl, .foreign nofun⟩

theorem teardown_leads {h : Handles} (hhandles : (w i).handles = some h)
    (hapart : ∀ j h', j ≠ i → (w j).handles = some h' → h'.worker ≠ h.worker) :
    host.Leads w f (teardown m (host.own i)) (Torn w f i h) := by
  refine .get fun s hw => ?_
  simp only [hw, dismiss, hhandles]
  refine .bind (.bind (.deals (hm.askToExit _) fun _ f₁ hasked => ?_))
  refine .deals (hm.join _ _) fun answer f₂ hanswer => ?_
  obtain ⟨hjoined, hforeign⟩ := hanswer
  have hf := (hasked.mayClose hhandles hapart).trans (hjoined.mayClose hhandles hapart)
  cases answer with
  | error e => exact .pure (.refused (hforeign e rfl) hf)
  | ok =>
    refine .get fun s hw => ?_
    simp only [hw, hhandles]
    refine .bind (.close hm (.bind (.change hm (.pure ?_))))
    rw [hf.update]
    exact .closed

theorem serve_leads (socket : Nat) (hfree : (w i).handles = none) :
    host.Leads w f (serve m (host.own i) socket) (Serve w f i socket) := by
  refine .get fun s hw => ?_
  show host.Leads w f (_ >>= _) _
  simp only [hw]
  refine .bind (.prepare hm (fun worker hworker => ?_) fun e he => .pure ?_)
  · refine .bind (.change hm (.bind (.quiet (hm.launch worker) fun _ => ?_)))
    refine .bind ((await_leads hm worker).mono ?_)
    rintro _ _ _ ⟨rfl, rfl, hseen⟩
    have hhandles : ∀ h, some (Handles.mk worker socket) = some h →
        h.socket = socket ∧ Unknown h.worker w := by
      rintro _ ⟨⟩
      exact ⟨rfl, hworker⟩
    cases hseen with
    | started =>
      refine .bind (.change hm (.pure ?_))
      rw [Function.update_self, Function.update_idem]
      exact .listening hworker
    | @foreign e he =>
      cases e with
      | failure e => exact absurd rfl (he e)
      | _ => exact .pure (.abandoned he hhandles)
    | failed he =>
      -- the worker is new, hence no other server's socket goes with it
      refine .bind ((teardown_leads hm (h := { worker, socket }) ?_ ?_).mono ?_)
      · rw [Function.update_self]
      · intro j h hj hhandles
        rw [Function.update_of_ne hj] at hhandles
        exact hworker j h hhandles
      · rintro _ _ _ htorn
        cases htorn with
        | closed =>
          refine .pure ?_
          rw [Function.update_self, Function.update_idem]
          exact .failed he
        | refused he hf =>
          rcases hf with rfl | rfl
          · exact .pure (.abandoned he hhandles)
          · exact .pure (.adrift he hworker)
  · -- the server has never come to know of the worker
    have hself : Function.update w i { w i with handles := none } = w := by
      rw [← hfree, Function.update_eq_self]
    have habandoned : Serve w f i socket (.error e)
      (Function.update w i { w i with handles := none }) f := .abandoned he nofun
    rwa [hself] at habandoned

theorem start_leads (hhost : (w i).host = host.name) (hphase : (w i).phase = .stopped)
    (hhandles : (w i).handles = none) :
    host.Leads w f (start m (host.own i)) (Moved w f i .start) := by
  refine .get fun s hw => ?_
  simp only [hw, hphase]
  refine .bind (.change hm (.bind ((claimAddress_leads hm ?_).mono ?_)))
  · rw [Function.update_self]
    exact hhost
  rintro _ _ _ hclaim
  -- what is entered when nothing is claimed, or when the claim has been given up
  have hstopped : { w i with phase := .stopped } = w i := by rw [← hphase]
  cases hclaim with
  | taken htaken =>
    refine .bind (.change hm (.pure ?_))
    simp only [Function.update_self, Function.update_idem, hstopped, Function.update_eq_self]
      at htaken ⊢
    exact .taken hphase htaken
  | failed he =>
    refine .bind (.change hm (.pure ?_))
    simp only [Function.update_self, Function.update_idem, hstopped]
    exact .failed hphase hhandles he
  | @claimed socket port hnew hunheld hfree =>
    replace hunheld := hunheld.of_update hhandles
    refine (serve_leads hm _ ?_).mono ?_
    · simpa only [Function.update_self] using hhandles
    simp only [Function.update_self, Function.update_idem]
    have hclosed : Function.update f socket none = f := Function.update_eq_self_iff.2 hnew.symm
    rintro answer w' f' hserve
    cases hserve with
    | listening hworker =>
      simp only [Function.update_self, Function.update_idem]
      refine .up hphase (.inl ⟨rfl, rfl, nofun⟩) hnew hunheld hfree ?_
      rintro _ ⟨⟩
      exact ⟨rfl, hworker.of_update hhandles⟩
    | @abandoned e handles he hheld =>
      simp only [Function.update_self, Function.update_idem]
      refine .up hphase (.inr ⟨⟨e, rfl, he⟩, rfl⟩) hnew hunheld hfree fun h hh => ?_
      exact (hheld h hh).imp_right fun hworker => hworker.of_update hhandles
    | @adrift e worker he hworker =>
      simp only [Function.update_self, Function.update_idem, hclosed]
      exact .adrift (h := ⟨worker, socket⟩) hphase he hnew hunheld (hworker.of_update hhandles)
    | @failed e he =>
      simp only [Function.update_self, Function.update_idem, hclosed, ← hphase, ← hhandles]
      exact .failed hphase hhandles fun port hport => he port (Raised.failure.inj hport)

theorem stop_leads {h : Handles} (hphase : (w i).phase ≠ .stopped)
    (hhandles : (w i).handles = some h)
    (hapart : ∀ j h', j ≠ i → (w j).handles = some h' → h'.worker ≠ h.worker) :
    host.Leads w f (stop m (host.own i)) (Moved w f i .stop) := by
  refine .get fun s hw => ?_
  simp only [hw]
  have hentered : host.Leads w f
      (enter (host.own i) .stopping >>= fun _ => teardown m (host.own i)) (Moved w f i .stop) := by
    refine .bind (.change hm ((teardown_leads hm (h := h) ?_ ?_).mono ?_))
    · rwa [Function.update_self]
    · intro j h' hj hh'
      rw [Function.update_of_ne hj] at hh'
      exact hapart j h' hj hh'
    · rintro _ _ _ htorn
      cases htorn with
      | closed =>
        rw [Function.update_self, Function.update_idem]
        exact .stopped hhandles
      | refused he hf => exact .brokenOff hhandles he hf
  cases hother : (w i).phase with
  | stopped => exact absurd hother hphase
  | _ => exact hentered

/-- A server that has no worker is stopped at once. -/
theorem stop_leads_unserved (hphase : (w i).phase = .starting) (hhandles : (w i).handles = none) :
    host.Leads w f (stop m (host.own i)) (Moved w f i .stop) := by
  refine .get fun s hw => ?_
  simp only [hw, hphase]
  refine .bind (.change hm (.get fun s hw => ?_))
  simp only [hw, Function.update_self, dismiss, hhandles]
  refine .bind (.pure (.get fun s hw => ?_))
  simp only [hw, Function.update_self]
  refine .bind (.change hm (.pure ?_))
  rw [Function.update_self, Function.update_idem]
  exact .unserved hhandles

end

/-! ## Servers at rest -/

/-- How complete calls find a server and leave it: it has no socket, or the one socket that is bound
to its port.  A start that was interrupted is as good as complete.  A call that was broken off leaves
a server on the way; its worker may have let the socket go, and if it was never made, the server does
not know of the socket. -/
inductive Rests (f : Ports) (v : Server) : Prop
  | bare (hphase : v.phase = .stopped ∨ v.phase = .starting) (hhandles : v.handles = none)
  | up {h : Handles} (hphase : v.phase ≠ .stopped) (hhandles : v.handles = some h)
      (hport : ∀ socket, f socket = some v.port ↔ socket = h.socket)
  | adrift {h : Handles} (hphase : v.phase = .starting ∨ v.phase = .stopping)
      (hhandles : v.handles = some h) (hgone : f h.socket = none)

/-- The servers of a host are at rest, each with a socket and a worker of its own. -/
structure Rest (name : String) (w : ι → Server) (f : Ports) : Prop where
  host : ∀ i, (w i).host = name
  rests : ∀ i, Rests f (w i)
  apart : ∀ i j h h', j ≠ i → (w i).handles = some h → (w j).handles = some h' →
    h'.socket ≠ h.socket ∧ h'.worker ≠ h.worker

section
variable {f : Ports} {v : Server} {socket : Nat}

theorem Rests.handles_of_stopped (hv : Rests f v) (hphase : v.phase = .stopped) :
    v.handles = none := by
  cases hv with
  | bare _ hhandles => exact hhandles
  | up hnot => exact absurd hphase hnot
  | adrift hother =>
    rw [hphase] at hother
    exact absurd hother (by decide)

theorem Rests.phase_of_unserved (hv : Rests f v) (hphase : v.phase ≠ .stopped)
    (hhandles : v.handles = none) : v.phase = .starting := by
  cases hv with
  | bare hother => exact hother.resolve_left hphase
  | up _ hsome => exact absurd (hhandles.symm.trans hsome) nofun
  | adrift _ hsome => exact absurd (hhandles.symm.trans hsome) nofun

theorem Rests.bound (hv : Rests f v) {h : Handles} (hhandles : v.handles = some h)
    (hbound : f h.socket = some v.port) : ∀ socket, f socket = some v.port ↔ socket = h.socket := by
  cases hv with
  | bare _ hnone => exact absurd (hnone.symm.trans hhandles) nofun
  | up _ hsome hport =>
    obtain rfl := Option.some.inj (hsome.symm.trans hhandles)
    exact hport
  | adrift _ hsome hgone =>
    obtain rfl := Option.some.inj (hsome.symm.trans hhandles)
    exact absurd (hgone.symm.trans hbound) nofun

/-- A server is not disturbed by what becomes of other sockets that keep off its port. -/
theorem Rests.update (hv : Rests f v) {got : Option Int}
    (hsocket : ∀ h, v.handles = some h → h.socket ≠ socket)
    (hgot : ∀ h, v.handles = some h → f h.socket = some v.port → got ≠ some v.port) :
    Rests (Function.update f socket got) v := by
  cases hv with
  | bare hphase hhandles => exact .bare hphase hhandles
  | @up h hphase hhandles hport =>
    refine .up hphase hhandles fun other => ?_
    by_cases hother : other = socket
    · subst hother
      rw [Function.update_self]
      exact ⟨fun h' => absurd h' (hgot h hhandles ((hport _).2 rfl)),
        fun h' => absurd h'.symm (hsocket h hhandles)⟩
    · rw [Function.update_of_ne hother]
      exact hport other
  | @adrift h hphase hhandles hgone =>
    refine .adrift hphase hhandles ?_
    rwa [Function.update_of_ne (hsocket h hhandles)]

/-- A server whose call is broken off has its socket still, or has let it go. -/
theorem Rests.brokenOff (hv : Rests f v) {h : Handles} (hhandles : v.handles = some h) {f' : Ports}
    (hf : MayClose h.socket f f') :
    Rests f' { v with phase := .stopping } := by
  rcases hf with rfl | rfl
  · cases hv with
    | bare _ hnone => exact absurd (hnone.symm.trans hhandles) nofun
    | up _ hsome hport => exact .up nofun hsome hport
    | adrift _ hsome hgone => exact .adrift (.inr rfl) hsome hgone
  · exact .adrift (.inr rfl) hhandles (Function.update_self ..)

end

theorem Rest.socket_of_listening {name : String} {w : ι → Server} {f : Ports}
    (hrest : Rest name w f) {i : ι} (hphase : (w i).phase = .listening) :
    ∃ h, (w i).handles = some h ∧ ∀ socket, f socket = some (w i).port ↔ socket = h.socket := by
  cases hrest.rests i with
  | bare hother =>
    rw [hphase] at hother
    exact absurd hother (by decide)
  | up _ hhandles hport => exact ⟨_, hhandles, hport⟩
  | adrift hother =>
    rw [hphase] at hother
    exact absurd hother (by decide)

theorem Rest.eq_of_port {name : String} {w : ι → Server} {f : Ports} (hrest : Rest name w f)
    {i j : ι} (hi : (w i).phase = .listening) (hj : (w j).phase = .listening)
    (hport : (w i).port = (w j).port) : i = j := by
  obtain ⟨h, hh, hsocket⟩ := hrest.socket_of_listening hi
  obtain ⟨h', hh', hsocket'⟩ := hrest.socket_of_listening hj
  by_cases hji : j = i
  · exact hji.symm
  · have hbound : h'.socket = h.socket := (hsocket _).1 (hport ▸ (hsocket' _).2 rfl)
    exact absurd hbound (hrest.apart i j h h' hji hh hh').1

section
variable [DecidableEq ι] {name : String} {w w' : ι → Server} {f f' : Ports} {i : ι}

theorem Rest.update (hrest : Rest name w f) {v : Server} (hhost : v.host = name) (hv : Rests f' v)
    (hothers : ∀ j, j ≠ i → Rests f' (w j))
    (hapart : ∀ j h h', j ≠ i → v.handles = some h → (w j).handles = some h' →
      h'.socket ≠ h.socket ∧ h'.worker ≠ h.worker) : Rest name (Function.update w i v) f' where
  host j := by
    by_cases hj : j = i
    · rwa [hj, Function.update_self]
    · rw [Function.update_of_ne hj]
      exact hrest.host j
  rests j := by
    by_cases hj : j = i
    · rwa [hj, Function.update_self]
    · rw [Function.update_of_ne hj]
      exact hothers j hj
  apart j k h h' hkj hh hh' := by
    by_cases hj : j = i
    · subst hj
      rw [Function.update_self] at hh
      rw [Function.update_of_ne hkj] at hh'
      exact hapart k h h' hkj hh hh'
    · rw [Function.update_of_ne hj] at hh
      by_cases hk : k = i
      · subst hk
        rw [Function.update_self] at hh'
        obtain ⟨hsocket, hworker⟩ := hapart j h' h hj hh' hh
        exact ⟨hsocket.symm, hworker.symm⟩
      · rw [Function.update_of_ne hk] at hh'
        exact hrest.apart j k h h' hkj hh hh'

/-- A call leaves the servers at rest that were at rest. -/
theorem Moved.rest {op : Operation} {answer : Except Raised Unit} (h : Moved w f i op answer w' f')
    (hrest : Rest name w f) : Rest name w' f' := by
  cases h with
  | rejected => exact hrest
  | awaited => exact hrest
  | taken => exact hrest
  | idle => exact hrest
  | failed hphase hhandles _ =>
    refine hrest.update (hrest.host i) (.bare (.inl hphase) hhandles) (fun j _ => hrest.rests j) ?_
    exact fun _ _ _ _ hh _ => absurd (hhandles.symm.trans hh) nofun
  | @up _ port phase socket handles _ hanswer hnew hunheld hfree hhandles =>
    refine hrest.update (hrest.host i) ?_ (fun j _ => ?_) ?_
    · cases hheld : handles with
      | none =>
        refine .bare (hanswer.elim ?_ fun h => .inr h.2) rfl
        exact fun h => absurd hheld h.2.2
      | some h =>
        obtain ⟨rfl, _⟩ := hhandles h hheld
        refine .up ?_ rfl fun socket => ?_
        · rcases hanswer with ⟨_, rfl, _⟩ | ⟨_, rfl⟩ <;> exact nofun
        · by_cases hs : socket = h.socket
          · rw [hs, Function.update_self]
            exact iff_of_true rfl rfl
          · rw [Function.update_of_ne hs]
            exact iff_of_false (hfree socket) hs
    · refine (hrest.rests j).update (hunheld j) fun h' _ hbound hport => ?_
      exact hfree _ (hport ▸ hbound)
    · intro j h h' _ hh hh'
      obtain ⟨rfl, hworker⟩ := hhandles h hh
      exact ⟨hunheld j h' hh', hworker j h' hh'⟩
  | @adrift _ port h _ _ hnew hunheld hworker =>
    refine hrest.update (hrest.host i) (.adrift (.inl rfl) rfl hnew) (fun j _ => hrest.rests j) ?_
    rintro j _ h' _ ⟨⟩ hh'
    exact ⟨hunheld j h' hh', hworker j h' hh'⟩
  | unserved =>
    exact hrest.update (hrest.host i) (.bare (.inl rfl) rfl) (fun j _ => hrest.rests j) nofun
  | @stopped h hhandles =>
    refine hrest.update (hrest.host i) (.bare (.inl rfl) rfl) (fun j hj => ?_) nofun
    refine (hrest.rests j).update (fun h' hh' => ?_) nofun
    exact (hrest.apart i j h h' hj hhandles hh').1
  | @brokenOff h _ _ hhandles _ hf =>
    refine hrest.update (hrest.host i) ((hrest.rests i).brokenOff hhandles hf) (fun j hj => ?_)
      fun j h h' hj hh hh' => hrest.apart i j h h' hj hh hh'
    rcases hf with rfl | rfl
    · exact hrest.rests j
    · refine (hrest.rests j).update (fun h' hh' => ?_) nofun
      exact (hrest.apart i j h h' hj hhandles hh').1

variable {m : Machine σ} {host : Host σ ι} (hm : m.Hosts host)
include hm

theorem perform_leads (hrest : Rest host.name w f) (i : ι) (op : Operation) :
    host.Leads w f (perform m (host.own i) op) (Moved w f i op) := by
  cases op with
  | start =>
    cases hphase : (w i).phase with
    | stopped =>
      exact start_leads hm (hrest.host i) hphase ((hrest.rests i).handles_of_stopped hphase)
    | listening =>
      refine .get fun s hw => ?_
      simp only [hw, hphase]
      exact .pure (.rejected (.inl hphase))
    | starting =>
      refine .get fun s hw => ?_
      simp only [hw, hphase]
      exact .pure (.rejected (.inr hphase))
    | stopping =>
      refine .get fun s hw => ?_
      simp only [hw, hphase]
      exact .pure (.awaited hphase)
  | stop =>
    by_cases hphase : (w i).phase = .stopped
    · refine .get fun s hw => ?_
      simp only [hw, hphase]
      exact .pure (.idle hphase)
    · cases hhandles : (w i).handles with
      | none =>
        exact stop_leads_unserved hm ((hrest.rests i).phase_of_unserved hphase hhandles) hhandles
      | some h =>
        exact stop_leads hm hphase hhandles fun j h' hj hh' => (hrest.apart i j h h' hj hhandles hh').2

end

/-! ## Calls in any order -/

/-- Calls to servers, one after another. -/
def performEach (m : Machine σ) (own : ι → Part σ Server) :
    List (ι × Operation) → StateM σ (List (Except Raised Unit))
  | [] => return []
  | (i, op) :: calls => do
    let answer ← perform m (own i) op
    let answers ← performEach m own calls
    return answer :: answers

section
variable [DecidableEq ι] {m : Machine σ} {host : Host σ ι} (hm : m.Hosts host)
include hm

theorem performEach_leads {w : ι → Server} {f : Ports} (hrest : Rest host.name w f)
    (calls : List (ι × Operation)) :
    host.Leads w f (performEach m host.own calls) fun _ w' f' => Rest host.name w' f' := by
  induction calls generalizing w f with
  | nil => exact .pure hrest
  | cons call calls ih =>
    refine .bind ((perform_leads hm hrest call.1 call.2).mono fun _ w' f' hmoved => ?_)
    exact .bind ((ih (hmoved.rest hrest)).mono fun _ _ _ hrest' => .pure hrest')

theorem perform_moves {s : σ} (hfair : host.Fair s)
    (hrest : Rest host.name (host.servers s) (host.ports s)) (i : ι) (op : Operation) :
    Moved (host.servers s) (host.ports s) i op (perform m (host.own i) op s).1
      (host.servers (perform m (host.own i) op s).2) (host.ports (perform m (host.own i) op s).2) :=
  (perform_leads hm hrest i op s hfair rfl rfl).2

theorem start_failed {s s' : σ} {i : ι} {e : Raised} (hfair : host.Fair s)
    (hrest : Rest host.name (host.servers s) (host.ports s))
    (hstart : perform m (host.own i) .start s = (.error e, s')) :
    (∀ j, j ≠ i → host.servers s' j = host.servers s j) ∧
      (∀ socket port, host.ports s socket = some port → host.ports s' socket = some port) ∧
      ((host.servers s' i).phase = (host.servers s i).phase → host.ports s' = host.ports s) := by
  have hmoved := perform_moves hm hfair hrest i .start
  rw [hstart] at hmoved
  generalize host.servers s' = w', host.ports s' = f' at hmoved ⊢
  cases hmoved with
  | rejected => exact ⟨fun _ _ => rfl, fun _ _ => id, fun _ => rfl⟩
  | awaited => exact ⟨fun _ _ => rfl, fun _ _ => id, fun _ => rfl⟩
  | taken => exact ⟨fun _ _ => rfl, fun _ _ => id, fun _ => rfl⟩
  | failed => exact ⟨fun j hj => Function.update_of_ne hj .., fun _ _ => id, fun _ => rfl⟩
  | adrift => exact ⟨fun j hj => Function.update_of_ne hj .., fun _ _ => id, fun _ => rfl⟩
  | @up _ port phase socket handles hstopped hanswer hnew =>
    refine ⟨fun j hj => Function.update_of_ne hj .., fun other port hport => ?_, fun hphase => ?_⟩
    · have hne : other ≠ socket := by
        rintro rfl
        exact absurd (hnew.symm.trans hport) nofun
      rwa [Function.update_of_ne hne]
    · rw [Function.update_self, hstopped] at hphase
      rcases hanswer with ⟨hok, _⟩ | ⟨_, hstarting⟩
      · exact absurd hok nofun
      · exact absurd (hstarting.symm.trans hphase) nofun

/-- A server that is stopped leaves its port to nobody. -/
theorem stop_frees {s s' : σ} {i : ι} {h : Handles} {port : Int} (hfair : host.Fair s)
    (hrest : Rest host.name (host.servers s) (host.ports s))
    (hhandles : (host.servers s i).handles = some h) (hport : (host.servers s i).port = port)
    (hbound : host.ports s h.socket = some port)
    (hstop : perform m (host.own i) .stop s = (.ok (), s')) :
    (host.servers s' i).phase = .stopped ∧ (host.servers s' i).port = port ∧
      ∀ socket, host.ports s' socket ≠ some port := by
  subst hport
  have honly := (hrest.rests i).bound hhandles hbound
  have hmoved := perform_moves hm hfair hrest i .stop
  rw [hstop] at hmoved
  generalize host.servers s' = w', host.ports s' = f' at hmoved ⊢
  cases hmoved with
  | idle hstopped =>
    exact absurd (((hrest.rests i).handles_of_stopped hstopped).symm.trans hhandles) nofun
  | unserved hnone => exact absurd (hnone.symm.trans hhandles) nofun
  | @stopped h' hh' =>
    obtain rfl := Option.some.inj (hhandles.symm.trans hh')
    rw [Function.update_self]
    refine ⟨rfl, rfl, fun socket => ?_⟩
    by_cases hsocket : socket = h.socket
    · rw [hsocket, Function.update_self]
      exact nofun
    · rw [Function.update_of_ne hsocket]
      exact fun hother => hsocket ((honly socket).1 hother)

theorem stop_brokenOff {s s' : σ} {i : ι} {e : Raised} (hfair : host.Fair s)
    (hrest : Rest host.name (host.servers s) (host.ports s))
    (hstop : perform m (host.own i) .stop s = (.error e, s')) :
    (host.servers s' i).phase = .stopping ∧ ∀ j, j ≠ i → host.servers s' j = host.servers s j := by
  have hmoved := perform_moves hm hfair hrest i .stop
  rw [hstop] at hmoved
  generalize host.servers s' = w', host.ports s' = f' at hmoved ⊢
  cases hmoved with
  | brokenOff =>
    rw [Function.update_self]
    exact ⟨rfl, fun j hj => Function.update_of_ne hj ..⟩

theorem start_not_inUse {s : σ} {port : Int} (hfair : host.Fair s)
    (hrest : Rest host.name (host.servers s) (host.ports s))
    (hfree : ∀ socket, host.ports s socket ≠ some port) (i : ι)
    (hphase : (host.servers s i).phase ≠ .starting) :
    (perform m (host.own i) .start s).1 ≠ .error (.failure (.portInUse port)) := by
  intro hanswer
  have hmoved := perform_moves hm hfair hrest i .start
  rw [hanswer] at hmoved
  generalize host.servers (perform m (host.own i) .start s).2 = w',
    host.ports (perform m (host.own i) .start s).2 = f' at hmoved
  cases hmoved with
  | rejected hbusy =>
    obtain ⟨h, _, hbound⟩ := hrest.socket_of_listening (hbusy.resolve_right hphase)
    exact hfree _ ((hbound _).2 rfl)
  | taken _ htaken =>
    obtain ⟨other, hother⟩ := htaken
    exact hfree other hother
  | failed _ _ he => exact he _ rfl
  | up _ hanswer =>
    rcases hanswer with ⟨⟨⟩, _⟩ | ⟨⟨_, ⟨⟩, hforeign⟩, _⟩
    exact hforeign _ rfl
  | adrift _ hforeign => exact hforeign _ rfl

omit [DecidableEq ι] in
theorem bind_not_inUse {s : σ} {port : Int} (hfair : host.Fair s)
    (hfree : ∀ socket, host.ports s socket ≠ some port) (socket : Nat) :
    (m.bind socket host.name port s).1 ≠ .error .addressInUse := by
  have hanswer := (hm.bind socket port s hfair).2.2
  generalize (m.bind socket host.name port s).1 = answer,
    host.ports (m.bind socket host.name port s).2 = f' at hanswer ⊢
  cases hanswer with
  | inUse _ htaken =>
    obtain ⟨other, _, hother⟩ := htaken
    exact absurd hother (hfree other)
  | refused he => exact fun heq => he (Except.error.inj heq)
  | asked => exact nofun
  | chosen => exact nofun

end

/-- How things stand on a host between the calls to its servers. -/
structure Exclusive (m : Machine σ) (host : Host σ ι) (s : σ) : Prop where
  /-- A server that listens has the one socket that is bound to its port. -/
  bound : ∀ i, (host.servers s i).phase = .listening →
    ∃ h, (host.servers s i).handles = some h ∧
      ∀ socket, host.ports s socket = some (host.servers s i).port ↔ socket = h.socket
  /-- No two servers listen on one port. -/
  one : ∀ i j, (host.servers s i).phase = .listening → (host.servers s j).phase = .listening →
    (host.servers s i).port = (host.servers s j).port → i = j
  /-- A start that fails leaves the others and all that is bound alone.  Unless it was broken off on
  the way, it has bound nothing either. -/
  failed : ∀ i e s', perform m (host.own i) .start s = (.error e, s') →
    (∀ j, j ≠ i → host.servers s' j = host.servers s j) ∧
      (∀ socket port, host.ports s socket = some port → host.ports s' socket = some port) ∧
      ((host.servers s' i).phase = (host.servers s i).phase → host.ports s' = host.ports s)
  /-- The port of a server that had it and is stopped can be bound again. -/
  freed : ∀ i h port s', (host.servers s i).handles = some h → (host.servers s i).port = port →
    host.ports s h.socket = some port → perform m (host.own i) .stop s = (.ok (), s') →
      (host.servers s' i).phase = .stopped ∧ (host.servers s' i).port = port ∧
        (∀ socket, (m.bind socket host.name port s').1 ≠ .error .addressInUse) ∧
        ∀ j, (host.servers s' j).phase ≠ .starting →
          (perform m (host.own j) .start s').1 ≠ .error (.failure (.portInUse port))
  /-- A stop that is broken off has not stopped the server, and leaves the others alone. -/
  brokenOff : ∀ i e s', perform m (host.own i) .stop s = (.error e, s') →
    (host.servers s' i).phase = .stopping ∧ ∀ j, j ≠ i → host.servers s' j = host.servers s j

theorem Rest.exclusive [DecidableEq ι] {m : Machine σ} {host : Host σ ι} (hm : m.Hosts host) {s : σ}
    (hfair : host.Fair s) (hrest : Rest host.name (host.servers s) (host.ports s)) :
    Exclusive m host s where
  bound _ hphase := hrest.socket_of_listening hphase
  one _ _ hi hj hport := hrest.eq_of_port hi hj hport
  failed _ _ _ hstart := start_failed hm hfair hrest hstart
  freed i h port s' hhandles hport hbound hstop := by
    obtain ⟨hstopped, hport', hfree⟩ := stop_frees hm hfair hrest hhandles hport hbound hstop
    obtain ⟨hfair', hmoved⟩ := perform_leads hm hrest i .stop s hfair rfl rfl
    rw [hstop] at hfair' hmoved
    exact ⟨hstopped, hport', bind_not_inUse hm hfair' hfree,
      start_not_inUse hm hfair' (hmoved.rest hrest) hfree⟩
  brokenOff _ _ _ hstop := stop_brokenOff hm hfair hrest hstop

/-- Two servers, and the sockets that have been opened for them.  Their workers come up at once. -/
structure Site where
  servers : Bool → Server
  opened : Nat := 0
  ports : Ports := fun _ => none
  /-- A port that is above all that are bound. -/
  freshPort : Int := 50001

namespace Site

def bound (x : Site) (socket : Nat) (port : Int) : Site :=
  { x with
    ports := Function.update x.ports socket (some port)
    freshPort := max x.freshPort (port + 1) }

def closed (x : Site) (socket : Nat) : Site :=
  { x with ports := Function.update x.ports socket none }

def isTaken (x : Site) (socket : Nat) (port : Int) : Bool :=
  (List.range x.opened).any fun other => other ≠ socket ∧ x.ports other = some port

def bind (x : Site) (socket : Nat) (port : Int) : Except BindError Int × Site :=
  if x.opened ≤ socket then (.error (.refused "Bad file descriptor"), x)
  else if port = 0 then (.ok x.freshPort, x.bound socket x.freshPort)
  else if x.isTaken socket port then (.error .addressInUse, x)
  else (.ok port, x.bound socket port)

def handles (x : Site) : List Handles :=
  (x.servers false).handles.toList ++ (x.servers true).handles.toList

def next (number : Handles → Nat) (v : Server) : Nat := v.handles.elim 0 (number · + 1)

/-- A number that is above those that the servers have. -/
def fresh (x : Site) (number : Handles → Nat) : Nat :=
  max (next number (x.servers false)) (next number (x.servers true))

def freshSocket (x : Site) : Nat := max x.opened (x.fresh Handles.socket)

/-- A worker that ends closes the socket that it serves. -/
def joined (x : Site) (worker : Nat) : Site :=
  match x.handles.find? (·.worker = worker) with
  | some h => x.closed h.socket
  | none => x

def machine : Machine Site where
  openSocket x := (x.freshSocket, { x with opened := x.freshSocket + 1 })
  bind socket _ port x := x.bind socket port
  close socket x := ((), x.closed socket)
  prepare _ _ _ x := (.ok (x.fresh Handles.worker), x)
  launch _ x := ((), x)
  hasStarted _ x := (true, x)
  isAlive _ x := (true, x)
  askToExit _ x := ((), x)
  join worker _ x := (.ok (), x.joined worker)
  now x := (.zero, x)
  sleep _ x := (.ok (), x)

/-- The sockets that are bound have been opened, and fresh ports are not bound. -/
def Fair (x : Site) : Prop :=
  ∀ socket port, x.ports socket = some port → socket < x.opened ∧ port < x.freshPort

def host : Host Site Bool where
  name := "127.0.0.1"
  own i := ⟨fun x => x.servers i, fun v x => { x with servers := Function.update x.servers i v }⟩
  ports := ports
  Fair := Fair

theorem mem_handles {x : Site} {h : Handles} :
    h ∈ x.handles ↔ ∃ i, (x.servers i).handles = some h := by
  simp [handles]

theorem isTaken_iff {x : Site} (hx : x.Fair) (socket : Nat) (port : Int) :
    x.isTaken socket port = true ↔ ∃ other, other ≠ socket ∧ x.ports other = some port := by
  simp only [isTaken, List.any_eq_true, List.mem_range, decide_eq_true_eq]
  constructor
  · rintro ⟨other, -, h⟩
    exact ⟨other, h⟩
  · rintro ⟨other, h⟩
    exact ⟨other, (hx other port h.2).1, h⟩

theorem fair_bound {x : Site} (hx : x.Fair) {socket : Nat} (hsocket : socket < x.opened)
    (port : Int) : (x.bound socket port).Fair := by
  intro other got hgot
  simp only [bound] at hgot ⊢
  by_cases hother : other = socket
  · rw [hother, Function.update_self] at hgot
    obtain rfl := Option.some.inj hgot
    exact ⟨hother ▸ hsocket, by omega⟩
  · rw [Function.update_of_ne hother] at hgot
    have := hx other got hgot
    exact ⟨this.1, by omega⟩

theorem fair_closed {x : Site} (hx : x.Fair) (socket : Nat) : (x.closed socket).Fair := by
  intro other got hgot
  simp only [closed] at hgot ⊢
  by_cases hother : other = socket
  · rw [hother, Function.update_self] at hgot
    exact absurd hgot nofun
  · rw [Function.update_of_ne hother] at hgot
    exact hx other got hgot

theorem bind_deals (socket : Nat) (port : Int) : host.Deals (fun x => x.bind socket port)
    fun _ f answer f' => Answers f socket port answer f' := by
  intro x hx
  simp only [bind]
  split
  · exact ⟨hx, rfl, .refused nofun⟩
  rename_i hopened
  have hsocket : socket < x.opened := Nat.lt_of_not_le hopened
  split
  · rename_i hport
    subst hport
    exact ⟨fair_bound hx hsocket _, rfl, .chosen fun other hother =>
      Int.lt_irrefl _ (hx other _ hother).2⟩
  rename_i hport
  have htaken := isTaken_iff hx socket port
  split
  · rename_i h
    exact ⟨hx, rfl, .inUse hport (htaken.1 h)⟩
  · rename_i h
    exact ⟨fair_bound hx hsocket _, rfl, .asked hport fun other hne hother =>
      h (htaken.2 ⟨other, hne, hother⟩)⟩

theorem lt_fresh {x : Site} {i : Bool} {h : Handles} (hh : (x.servers i).handles = some h)
    (number : Handles → Nat) : number h < x.fresh number := by
  have hnext : next number (x.servers i) = number h + 1 := by
    rw [next, hh]
    rfl
  have hle : next number (x.servers i) ≤ x.fresh number := by
    cases i
    · exact Nat.le_max_left ..
    · exact Nat.le_max_right ..
  omega

theorem letsGo_joined (x : Site) (worker : Nat) :
    LetsGo worker (host.servers x) (host.ports x) (host.ports (x.joined worker)) := by
  simp only [joined]
  split
  · rename_i h hfind
    obtain ⟨i, hi⟩ := mem_handles.1 (List.mem_of_find?_eq_some hfind)
    exact .inr ⟨i, h, hi, by simpa using List.find?_some hfind, rfl⟩
  · exact .inl rfl

theorem fair_joined {x : Site} (hx : x.Fair) (worker : Nat) : (x.joined worker).Fair := by
  simp only [joined]
  split
  · exact fair_closed hx _
  · exact hx

theorem servers_joined (x : Site) (worker : Nat) : (x.joined worker).servers = x.servers := by
  simp only [joined]
  split <;> rfl

theorem machine_hosts : machine.Hosts host where
  get_set i server x := Function.update_self ..
  get_set_of_ne i j server x hj := Function.update_of_ne hj ..
  fair_set i server x hx := hx
  ports_set i server x := rfl
  openSocket x hx := by
    have hopened : x.opened ≤ x.freshSocket := Nat.le_max_left ..
    have hnew : x.ports x.freshSocket = none := by
      cases hport : x.ports x.freshSocket with
      | none => rfl
      | some port => exact absurd (hx _ _ hport).1 (Nat.not_lt_of_le hopened)
    have hunheld : Unheld x.freshSocket (host.servers x) := fun i h hh =>
      Nat.ne_of_lt (Nat.lt_of_lt_of_le (lt_fresh hh _) (Nat.le_max_right ..))
    refine ⟨fun socket port hport => ?_, rfl, hnew, hunheld, rfl⟩
    exact ⟨Nat.lt_succ_of_lt (Nat.lt_of_lt_of_le (hx socket port hport).1 hopened),
      (hx socket port hport).2⟩
  bind := bind_deals
  close socket x hx := ⟨fair_closed hx socket, rfl, rfl⟩
  prepare name logLevel socket x hx := by
    refine ⟨hx, rfl, rfl, ?_, nofun⟩
    rintro _ ⟨⟩ i h hh
    exact Nat.ne_of_lt (lt_fresh hh _)
  launch worker x hx := ⟨hx, rfl, rfl⟩
  hasStarted worker x hx := ⟨hx, rfl, rfl⟩
  isAlive worker x hx := ⟨hx, rfl, rfl⟩
  askToExit worker x hx := ⟨hx, rfl, .inl rfl⟩
  join worker timeout x hx :=
    ⟨fair_joined hx worker, servers_joined x worker, letsGo_joined x worker, nofun⟩
  now x hx := ⟨hx, rfl, rfl⟩
  sleep time x hx := ⟨hx, rfl, rfl, .inl rfl⟩

/-- The second server asks for the port of the first, once while it is taken and once when it has
been given up. -/
def calls : List (Bool × Operation) :=
  [(false, .start), (true, .start), (false, .stop), (true, .start), (false, .start)]

end Site

end Server
end SvgIcon
