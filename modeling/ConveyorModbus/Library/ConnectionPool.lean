import ConveyorModbus.Library.Counting
import ConveyorModbus.Library.Transition

/-!
# Pools of connections with reply streams

An abstract model of clients that share pools of connections.  Every pool has
a fixed number of permits.  A client with a permit takes an idle connection or,
when there is none, opens one; a connection is healthy until an operation on it
fails, and an unhealthy connection is only ever given back or discarded.  Each
connection owns a stream: a request sent on it is answered on it, and a client
may vanish while its request is unanswered.

The results say how permits and connections are conserved, that a connection
has one holder, that a connection which failed is never used again, how many
operations can fail on the connections that exist at some instant, and when a
connection is free of unanswered requests.
-/

namespace ConnectionPool

open Counting

structure Token where
  pool : Nat
  stream : Nat
  healthy : Bool
  deriving DecidableEq, Repr

def Token.fail (token : Token) : Token :=
  { token with healthy := false }

inductive Custody where
  | nothing
  | permit (pool : Nat)
  /-- a permit and the place of a connection that is being opened -/
  | slot (pool : Nat)
  | holding (token : Token)
  /-- holding a connection on which a request is unanswered -/
  | waiting (token : Token)
  deriving DecidableEq, Repr

structure Shelf where
  capacity : Nat
  free : Nat
  idle : List Token
  deriving DecidableEq, Repr

structure State where
  shelves : List Shelf
  clients : List Custody
  streams : Nat
  outstanding : Nat -> Nat
  failed : List Token

namespace Shelf

def takePermit (shelf : Shelf) : Shelf :=
  { shelf with free := shelf.free - 1 }

def returnPermit (shelf : Shelf) : Shelf :=
  { shelf with free := shelf.free + 1 }

def remove (shelf : Shelf) (n : Nat) : Shelf :=
  { shelf with idle := shelf.idle.eraseIdx n }

def giveBack (shelf : Shelf) (token : Token) : Shelf :=
  { shelf with free := shelf.free + 1, idle := shelf.idle ++ [token] }

@[simp] theorem takePermit_idle (shelf : Shelf) :
    shelf.takePermit.idle = shelf.idle := rfl

@[simp] theorem returnPermit_idle (shelf : Shelf) :
    shelf.returnPermit.idle = shelf.idle := rfl

@[simp] theorem remove_idle (shelf : Shelf) (n : Nat) :
    (shelf.remove n).idle = shelf.idle.eraseIdx n := rfl

@[simp] theorem giveBack_idle (shelf : Shelf) (token : Token) :
    (shelf.giveBack token).idle = shelf.idle ++ [token] := rfl

end Shelf

namespace State

def initial : State where
  shelves := []
  clients := []
  streams := 0
  outstanding := fun _ => 0
  failed := []

def addShelf (s : State) (capacity : Nat) : State :=
  { s with
    shelves := s.shelves ++ [{ capacity, free := capacity, idle := [] }] }

def addClient (s : State) : State :=
  { s with clients := s.clients ++ [.nothing] }

def setShelf (s : State) (n : Nat) (shelf : Shelf) : State :=
  { s with shelves := s.shelves.set n shelf }

def setClient (s : State) (i : Nat) (custody : Custody) : State :=
  { s with clients := s.clients.set i custody }

def setOutstanding (s : State) (stream count : Nat) : State :=
  { s with
    outstanding := fun n => if n = stream then count else s.outstanding n }

def openStream (s : State) : State :=
  { s with streams := s.streams + 1 }

def recordFailure (s : State) (token : Token) : State :=
  { s with failed := s.failed ++ [token] }

section Fields

variable (s : State) (n i : Nat) (shelf : Shelf) (custody : Custody)
  (stream count capacity : Nat) (token : Token)

@[simp] theorem failed_addShelf : (s.addShelf capacity).failed = s.failed := rfl

@[simp] theorem failed_addClient : s.addClient.failed = s.failed := rfl

@[simp] theorem failed_setShelf : (s.setShelf n shelf).failed = s.failed := rfl

@[simp] theorem failed_setClient :
    (s.setClient i custody).failed = s.failed := rfl

@[simp] theorem failed_setOutstanding :
    (s.setOutstanding stream count).failed = s.failed := rfl

@[simp] theorem failed_openStream : s.openStream.failed = s.failed := rfl

@[simp] theorem failed_recordFailure :
    (s.recordFailure token).failed = s.failed ++ [token] := rfl

@[simp] theorem streams_addShelf :
    (s.addShelf capacity).streams = s.streams := rfl

@[simp] theorem streams_addClient : s.addClient.streams = s.streams := rfl

@[simp] theorem streams_setShelf :
    (s.setShelf n shelf).streams = s.streams := rfl

@[simp] theorem streams_setClient :
    (s.setClient i custody).streams = s.streams := rfl

@[simp] theorem streams_setOutstanding :
    (s.setOutstanding stream count).streams = s.streams := rfl

@[simp] theorem streams_openStream :
    s.openStream.streams = s.streams + 1 := rfl

@[simp] theorem streams_recordFailure :
    (s.recordFailure token).streams = s.streams := rfl

end Fields

end State

/-!
## Steps
-/

inductive Action where
  | join
  | build
  | acquire
  | pop
  | reserve
  | opened
  | discard
  | send
  | reply
  | fail
  | giveBack
  | abandon
  | vanish
  deriving DecidableEq, Repr

inductive Step : State -> Action -> State -> Prop where
  | join {s : State} : Step s .join s.addClient
  | build {s : State} {capacity : Nat} : Step s .build (s.addShelf capacity)
  | acquire {s : State} {i p : Nat} {shelf : Shelf} :
      s.clients[i]? = some .nothing ->
      s.shelves[p]? = some shelf ->
      0 < shelf.free ->
      Step s .acquire
        ((s.setShelf p shelf.takePermit).setClient i (.permit p))
  | pop {s : State} {i p n : Nat} {shelf : Shelf} {token : Token} :
      s.clients[i]? = some (.permit p) ->
      s.shelves[p]? = some shelf ->
      shelf.idle[n]? = some token ->
      Step s .pop ((s.setShelf p (shelf.remove n)).setClient i (.holding token))
  | reserve {s : State} {i p : Nat} {shelf : Shelf} :
      s.clients[i]? = some (.permit p) ->
      s.shelves[p]? = some shelf ->
      shelf.idle = [] ->
      Step s .reserve (s.setClient i (.slot p))
  | opened {s : State} {i p : Nat} :
      s.clients[i]? = some (.slot p) ->
      Step s .opened
        (s.openStream.setClient i
          (.holding { pool := p, stream := s.streams, healthy := true }))
  | discard {s : State} {i : Nat} {token : Token} :
      s.clients[i]? = some (.holding token) ->
      token.healthy = false ->
      Step s .discard (s.setClient i (.permit token.pool))
  | send {s : State} {i : Nat} {token : Token} :
      s.clients[i]? = some (.holding token) ->
      token.healthy = true ->
      Step s .send
        ((s.setOutstanding token.stream
          (s.outstanding token.stream + 1)).setClient i (.waiting token))
  | reply {s : State} {i : Nat} {token : Token} :
      s.clients[i]? = some (.waiting token) ->
      token.healthy = true ->
      Step s .reply
        ((s.setOutstanding token.stream
          (s.outstanding token.stream - 1)).setClient i (.holding token))
  | fail {s : State} {i : Nat} {token : Token} :
      s.clients[i]? = some (.holding token) ∨
        s.clients[i]? = some (.waiting token) ->
      token.healthy = true ->
      Step s .fail ((s.recordFailure token).setClient i (.holding token.fail))
  | giveBack {s : State} {i : Nat} {token : Token} {shelf : Shelf} :
      s.clients[i]? = some (.holding token) ->
      s.shelves[token.pool]? = some shelf ->
      Step s .giveBack
        ((s.setShelf token.pool (shelf.giveBack token)).setClient i .nothing)
  /-- A client gives its permit back and discards what it holds. -/
  | abandon {s : State} {i p : Nat} {custody : Custody} {shelf : Shelf} :
      s.clients[i]? = some custody ->
      custody = .permit p ∨ custody = .slot p ∨
        (exists token, custody = .holding token ∧ token.pool = p) ->
      s.shelves[p]? = some shelf ->
      Step s .abandon ((s.setShelf p shelf.returnPermit).setClient i .nothing)
  /-- A client leaves with its request unanswered; the connection is idle. -/
  | vanish {s : State} {i : Nat} {token : Token} {shelf : Shelf} :
      s.clients[i]? = some (.waiting token) ->
      s.shelves[token.pool]? = some shelf ->
      Step s .vanish
        ((s.setShelf token.pool (shelf.giveBack token)).setClient i .nothing)

def system : Transition.System State Action where
  init s := s = State.initial
  step := Step

/-!
## Weighing the connections

A weight on tokens is summed over the idle queues and over the clients.
-/

namespace Custody

def weigh (w : Token -> Nat) : Custody -> Nat
  | holding token => w token
  | waiting token => w token
  | _ => 0

@[simp] theorem weigh_nothing (w : Token -> Nat) : nothing.weigh w = 0 := rfl

@[simp] theorem weigh_permit (w : Token -> Nat) (p : Nat) :
    (permit p).weigh w = 0 := rfl

@[simp] theorem weigh_slot (w : Token -> Nat) (p : Nat) :
    (slot p).weigh w = 0 := rfl

@[simp] theorem weigh_holding (w : Token -> Nat) (token : Token) :
    (holding token).weigh w = w token := rfl

@[simp] theorem weigh_waiting (w : Token -> Nat) (token : Token) :
    (waiting token).weigh w = w token := rfl

def permits (p : Nat) : Custody -> Nat
  | permit q => if q = p then 1 else 0
  | slot q => if q = p then 1 else 0
  | holding token => if token.pool = p then 1 else 0
  | waiting token => if token.pool = p then 1 else 0
  | nothing => 0

def slots (p : Nat) : Custody -> Nat
  | slot q => if q = p then 1 else 0
  | _ => 0

def awaits (w : Token -> Nat) : Custody -> Nat
  | waiting token => w token
  | _ => 0

end Custody

def weigh (w : Token -> Nat) (s : State) : Nat :=
  total (fun shelf => total w shelf.idle) s.shelves +
    total (Custody.weigh w) s.clients

def ofPool (p : Nat) (token : Token) : Nat :=
  if token.pool = p then 1 else 0

def healthyOn (stream : Nat) (token : Token) : Nat :=
  if token.healthy = true ∧ token.stream = stream then 1 else 0

def healthyBelow (p bound : Nat) (token : Token) : Nat :=
  if token.healthy = true ∧ token.pool = p ∧ token.stream < bound then 1 else 0

section Weighing

variable {w : Token -> Nat} {s : State}

theorem weigh_setClient {i : Nat} {old : Custody}
    (h : s.clients[i]? = some old) (new : Custody) :
    weigh w (s.setClient i new) + old.weigh w = weigh w s + new.weigh w := by
  have hset := total_set (Custody.weigh w) h new
  simp only [weigh, State.setClient]
  omega

theorem weigh_setShelf {p : Nat} {old : Shelf}
    (h : s.shelves[p]? = some old) (new : Shelf) :
    weigh w (s.setShelf p new) + total w old.idle =
      weigh w s + total w new.idle := by
  have hset := total_set (fun shelf => total w shelf.idle) h new
  simp only [weigh, State.setShelf]
  omega

@[simp] theorem weigh_addClient : weigh w s.addClient = weigh w s := by
  simp [weigh, State.addClient, Custody.weigh]

@[simp] theorem weigh_addShelf (capacity : Nat) :
    weigh w (s.addShelf capacity) = weigh w s := by
  simp [weigh, State.addShelf]

@[simp] theorem weigh_setOutstanding (stream count : Nat) :
    weigh w (s.setOutstanding stream count) = weigh w s := rfl

@[simp] theorem weigh_openStream : weigh w s.openStream = weigh w s := rfl

@[simp] theorem weigh_recordFailure (token : Token) :
    weigh w (s.recordFailure token) = weigh w s := rfl

theorem weigh_setShelf_setClient {p i : Nat} {old : Shelf} {custody : Custody}
    (hclient : s.clients[i]? = some custody)
    (hshelf : s.shelves[p]? = some old) (new : Shelf) (custody' : Custody) :
    weigh w ((s.setShelf p new).setClient i custody') + custody.weigh w +
        total w old.idle =
      weigh w s + custody'.weigh w + total w new.idle := by
  have hafter := weigh_setClient (w := w) (s := s.setShelf p new) hclient
    custody'
  have hbefore := weigh_setShelf (w := w) hshelf new
  omega

theorem weigh_client_le {i : Nat} {custody : Custody}
    (h : s.clients[i]? = some custody) : custody.weigh w ≤ weigh w s := by
  have hle := weight_le_total (Custody.weigh w) (List.mem_of_getElem? h)
  unfold weigh
  omega

end Weighing

/-- The accounting of one step.  A weight grows by the connections opened, and
a failure exchanges the weight of a connection for that of a failed one. -/
structure Accounting (s s' : State) (newFailed newOpened : List Token) :
    Prop where
  failed : s'.failed = s.failed ++ newFailed
  streams : s'.streams = s.streams + newOpened.length
  opened_le : newOpened.length ≤ 1
  opened_next : forall token, token ∈ newOpened -> token.stream = s.streams
  opened_healthy : forall token, token ∈ newOpened -> token.healthy = true
  failed_healthy : forall token, token ∈ newFailed -> token.healthy = true
  failed_present : forall w, total w newFailed ≤ weigh w s
  balance : forall w, weigh w s' + total w newFailed ≤
    weigh w s + total w newOpened +
      total (fun token => w token.fail) newFailed

theorem Accounting.quiet {s s' : State} (hfailed : s'.failed = s.failed)
    (hstreams : s'.streams = s.streams)
    (hbalance : forall w, weigh w s' ≤ weigh w s) : Accounting s s' [] [] where
  failed := by simpa using hfailed
  streams := by simpa using hstreams
  opened_le := by simp
  opened_next := by simp
  opened_healthy := by simp
  failed_healthy := by simp
  failed_present := by simp
  balance := by simpa using hbalance

theorem Accounting.exchange {s : State} {i p : Nat}
    {custody custody' : Custody} {shelf shelf' : Shelf}
    (hclient : s.clients[i]? = some custody)
    (hshelf : s.shelves[p]? = some shelf)
    (hweigh : forall w, custody'.weigh w + total w shelf'.idle ≤
      custody.weigh w + total w shelf.idle) :
    Accounting s ((s.setShelf p shelf').setClient i custody') [] [] := by
  refine Accounting.quiet rfl rfl ?_
  intro w
  have hsum := weigh_setShelf_setClient (w := w) hclient hshelf shelf' custody'
  have hle := hweigh w
  omega

theorem Accounting.move {s t : State} {i : Nat} {custody custody' : Custody}
    (hclient : t.clients[i]? = some custody) (hfailed : t.failed = s.failed)
    (hstreams : t.streams = s.streams)
    (hbase : forall w, weigh w t = weigh w s)
    (hweigh : forall w, custody'.weigh w ≤ custody.weigh w) :
    Accounting s (t.setClient i custody') [] [] := by
  refine Accounting.quiet hfailed hstreams ?_
  intro w
  have hsum := weigh_setClient (w := w) hclient custody'
  have hle := hweigh w
  rw [hbase w] at hsum
  omega

theorem weigh_of_connected {s : State} {i : Nat} {token : Token}
    (h : s.clients[i]? = some (.holding token) ∨
      s.clients[i]? = some (.waiting token)) :
    exists custody, s.clients[i]? = some custody ∧
      forall w, custody.weigh w = w token := by
  rcases h with hholding | hwaiting
  · exact ⟨_, hholding, fun w => rfl⟩
  · exact ⟨_, hwaiting, fun w => rfl⟩

theorem step_accounting {s s' : State} {a : Action} (hstep : Step s a s') :
    exists newFailed newOpened, Accounting s s' newFailed newOpened := by
  cases hstep with
  | join => exact ⟨[], [], Accounting.quiet (by simp) (by simp) (by simp)⟩
  | build => exact ⟨[], [], Accounting.quiet (by simp) (by simp) (by simp)⟩
  | acquire hclient hshelf hfree =>
      exists [], []
      apply Accounting.exchange hclient hshelf
      intro w
      simp
  | pop hclient hshelf hidle =>
      exists [], []
      apply Accounting.exchange hclient hshelf
      intro w
      have herase := total_eraseIdx w hidle
      simp only [Custody.weigh_permit, Custody.weigh_holding,
        Shelf.remove_idle]
      omega
  | reserve hclient hshelf hidle =>
      exists [], []
      apply Accounting.move hclient rfl rfl (fun _ => rfl)
      intro w
      simp
  | opened hclient =>
      rename_i i p
      refine ⟨[], [{ pool := p, stream := s.streams, healthy := true }],
        ⟨by simp, by simp, by simp, by simp, by simp, by simp, by simp, ?_⟩⟩
      intro w
      have hsum := weigh_setClient (w := w) (s := s.openStream) hclient
        (.holding { pool := p, stream := s.streams, healthy := true })
      simp only [Custody.weigh_slot, Custody.weigh_holding,
        weigh_openStream] at hsum
      simp only [total_nil, total_cons]
      omega
  | discard hclient hunhealthy =>
      exists [], []
      apply Accounting.move hclient rfl rfl (fun _ => rfl)
      intro w
      simp
  | send hclient hhealthy =>
      exists [], []
      refine Accounting.move (t := s.setOutstanding _ _) hclient rfl rfl
        (fun _ => rfl) ?_
      intro w
      simp
  | reply hclient hhealthy =>
      exists [], []
      refine Accounting.move (t := s.setOutstanding _ _) hclient rfl rfl
        (fun _ => rfl) ?_
      intro w
      simp
  | fail hclient hhealthy =>
      rename_i i token
      rcases weigh_of_connected hclient with ⟨custody, hcustody, hweigh⟩
      refine ⟨[token], [],
        ⟨by simp, by simp, by simp, by simp, by simp, by simpa using hhealthy,
          ?_, ?_⟩⟩
      · intro w
        have hle := weigh_client_le (w := w) hcustody
        rw [hweigh w] at hle
        simpa using hle
      · intro w
        have hsum := weigh_setClient (w := w) (s := s.recordFailure token)
          hcustody (.holding token.fail)
        rw [hweigh w, Custody.weigh_holding, weigh_recordFailure] at hsum
        simp only [total_cons, total_nil]
        omega
  | giveBack hclient hshelf =>
      exists [], []
      apply Accounting.exchange hclient hshelf
      intro w
      simp only [Custody.weigh_nothing, Custody.weigh_holding,
        Shelf.giveBack_idle, total_append, total_cons, total_nil]
      omega
  | abandon hclient hcustody hshelf =>
      exists [], []
      apply Accounting.exchange hclient hshelf
      intro w
      simp
  | vanish hclient hshelf =>
      exists [], []
      apply Accounting.exchange hclient hshelf
      intro w
      simp only [Custody.weigh_nothing, Custody.weigh_waiting,
        Shelf.giveBack_idle, total_append, total_cons, total_nil]
      omega

/-!
## Streams

A stream number is given to one connection only, so at most one healthy
connection owns it, and none does once an operation on it has failed.
-/

def onStream (stream : Nat) (token : Token) : Nat :=
  if token.stream = stream then 1 else 0

theorem healthyOn_le_onStream (stream : Nat) (token : Token) :
    healthyOn stream token ≤ onStream stream token := by
  unfold healthyOn onStream
  by_cases hstream : token.stream = stream <;> simp [hstream]
  split <;> omega

theorem healthyOn_fail (stream : Nat) (token : Token) :
    healthyOn stream token.fail = 0 := by
  simp [healthyOn, Token.fail]

structure StreamInvariant (s : State) : Prop where
  fresh : forall n, s.streams ≤ n -> weigh (onStream n) s = 0
  unique : forall n, weigh (healthyOn n) s ≤ 1
  failed_old : forall token, token ∈ s.failed -> token.stream < s.streams
  failed_gone : forall token, token ∈ s.failed ->
    weigh (healthyOn token.stream) s = 0

theorem weigh_mono {s : State} {w w' : Token -> Nat}
    (h : forall token, w token ≤ w' token) : weigh w s ≤ weigh w' s := by
  have hidle : total (fun shelf => total w shelf.idle) s.shelves ≤
      total (fun shelf => total w' shelf.idle) s.shelves :=
    total_mono (fun _ _ => total_mono (fun token _ => h token))
  have hclients : total (Custody.weigh w) s.clients ≤
      total (Custody.weigh w') s.clients := by
    apply total_mono
    intro custody _
    cases custody <;> simp [h]
  unfold weigh
  omega

theorem streamInvariant_initial : StreamInvariant State.initial where
  fresh := by simp [weigh, State.initial]
  unique := by simp [weigh, State.initial]
  failed_old := by simp [State.initial]
  failed_gone := by simp [State.initial]

theorem onStream_opened {s s' : State} {newFailed newOpened : List Token}
    (h : Accounting s s' newFailed newOpened) {n : Nat} (hne : n ≠ s.streams) :
    total (onStream n) newOpened = 0 := by
  apply total_eq_zero
  intro token htoken
  have hstream := h.opened_next token htoken
  simp only [onStream, hstream, ite_eq_right_iff]
  intro hn
  exact absurd hn.symm hne

theorem healthyOn_fail_total (n : Nat) (tokens : List Token) :
    total (fun token => healthyOn n token.fail) tokens = 0 :=
  total_eq_zero (fun token _ => healthyOn_fail n token)

theorem StreamInvariant.stream_lt {s : State} (hinv : StreamInvariant s)
    {n : Nat} (hpos : 0 < weigh (onStream n) s) : n < s.streams := by
  by_contra hge
  have hzero := hinv.fresh n (by omega)
  omega

theorem Accounting.healthyOn {s s' : State} {newFailed newOpened : List Token}
    (h : Accounting s s' newFailed newOpened) {n : Nat} (hne : n ≠ s.streams) :
    weigh (ConnectionPool.healthyOn n) s' +
        total (ConnectionPool.healthyOn n) newFailed ≤
      weigh (ConnectionPool.healthyOn n) s := by
  have hbalance := h.balance (ConnectionPool.healthyOn n)
  have hzero := onStream_opened h hne
  have hle : total (ConnectionPool.healthyOn n) newOpened ≤
      total (onStream n) newOpened :=
    total_mono (fun token _ => healthyOn_le_onStream n token)
  have hfail := healthyOn_fail_total n newFailed
  omega

theorem streamInvariant_step {s s' : State} {a : Action}
    (hinv : StreamInvariant s) (hstep : Step s a s') : StreamInvariant s' := by
  rcases step_accounting hstep with ⟨newFailed, newOpened, hacc⟩
  have hstreams := hacc.streams
  have hnew : forall token, token ∈ newFailed ->
      token.stream < s.streams ∧
        0 < total (healthyOn token.stream) newFailed := by
    intro token htoken
    have hone : healthyOn token.stream token = 1 := by
      simp [healthyOn, hacc.failed_healthy token htoken]
    have hle := weight_le_total (healthyOn token.stream) htoken
    have hstream : total (healthyOn token.stream) newFailed ≤
        total (onStream token.stream) newFailed :=
      total_mono (fun other _ => healthyOn_le_onStream token.stream other)
    have hpresent := hacc.failed_present (onStream token.stream)
    exact ⟨hinv.stream_lt (by omega), by omega⟩
  refine ⟨?_, ?_, ?_, ?_⟩
  · intro n hn
    have hbefore := hinv.fresh n (by omega)
    have hbalance := hacc.balance (onStream n)
    have hzero : total (onStream n) newOpened = 0 := by
      by_cases hne : n = s.streams
      · have hnil : newOpened = [] := List.eq_nil_of_length_eq_zero (by omega)
        rw [hnil, total_nil]
      · exact onStream_opened hacc hne
    have hsame : total (fun token => onStream n token.fail) newFailed =
        total (onStream n) newFailed := rfl
    omega
  · intro n
    by_cases hne : n = s.streams
    · have hbefore := hinv.fresh n (by omega)
      have hle : weigh (healthyOn n) s ≤ weigh (onStream n) s :=
        weigh_mono (healthyOn_le_onStream n)
      have hbalance := hacc.balance (healthyOn n)
      have hfail := healthyOn_fail_total n newFailed
      have hlen : total (healthyOn n) newOpened ≤ newOpened.length := by
        apply total_le_length
        intro token _
        unfold healthyOn
        split <;> omega
      have hle1 := hacc.opened_le
      omega
    · have hle := hacc.healthyOn hne
      have hbefore := hinv.unique n
      omega
  · intro token htoken
    rw [hacc.failed, List.mem_append] at htoken
    rcases htoken with hbefore | hafter
    · have hlt := hinv.failed_old token hbefore
      omega
    · have hlt := (hnew token hafter).left
      omega
  · intro token htoken
    rw [hacc.failed, List.mem_append] at htoken
    rcases htoken with hbefore | hafter
    · have hlt := hinv.failed_old token hbefore
      have hzero := hinv.failed_gone token hbefore
      have hle := hacc.healthyOn (n := token.stream) (by omega)
      omega
    · have hpair := hnew token hafter
      have hle := hacc.healthyOn (n := token.stream) (by omega)
      have hone := hinv.unique token.stream
      omega

theorem reachable_streamInvariant {s : State} (h : system.Reachable s) :
    StreamInvariant s := by
  apply h.invariant
  · intro s hs
    rw [show s = State.initial from hs]
    exact streamInvariant_initial
  · intro s a s' _ hinv hstep
    exact streamInvariant_step hinv hstep

theorem reachable_onStream_le_one {s : State} (h : system.Reachable s)
    (n : Nat) : weigh (onStream n) s ≤ 1 := by
  refine @Transition.System.Reachable.invariant _ _ _
    (fun s => weigh (onStream n) s ≤ 1) ?_ ?_ _ h
  · intro s hs
    rw [show s = State.initial from hs]
    simp [weigh, State.initial]
  · intro s a s' hs hone hstep
    rcases step_accounting hstep with ⟨newFailed, newOpened, hacc⟩
    have hbalance := hacc.balance (onStream n)
    have hsame : total (fun token => onStream n token.fail) newFailed =
        total (onStream n) newFailed := rfl
    rw [hsame] at hbalance
    by_cases hn : n = s.streams
    · have hfresh := (reachable_streamInvariant hs).fresh n (by omega)
      have hopened : total (onStream n) newOpened ≤ newOpened.length := by
        refine total_le_length (fun token _ => ?_)
        unfold onStream
        split <;> omega
      have hle := hacc.opened_le
      omega
    · have hzero := onStream_opened hacc hn
      omega

theorem stream_ne_of_clients {s : State} (h : system.Reachable s) {i j : Nat}
    {custody custody' : Custody} {token token' : Token}
    (hclient : s.clients[i]? = some custody)
    (hclient' : s.clients[j]? = some custody') (hne : i ≠ j)
    (hweigh : forall w, custody.weigh w = w token)
    (hweigh' : forall w, custody'.weigh w = w token') :
    token.stream ≠ token'.stream := by
  intro hstream
  have hone := reachable_onStream_le_one h token.stream
  have hset := weigh_setClient (w := onStream token.stream) hclient .nothing
  have hstill : (s.setClient i .nothing).clients[j]? = some custody' := by
    rw [State.setClient, List.getElem?_set_ne hne, hclient']
  have hle := weigh_client_le (w := onStream token.stream) hstill
  have hown : onStream token.stream token = 1 := by simp [onStream]
  have hother : onStream token.stream token' = 1 := by simp [onStream, hstream]
  rw [hweigh, hown, Custody.weigh_nothing] at hset
  rw [hweigh', hother] at hle
  omega

/-!
## Permits

The free permits of a pool and those held by clients add up to its capacity,
and the connections of a pool that are alive or being opened never exceed it.
-/

structure PermitInvariant (s : State) : Prop where
  unbuilt : forall p, s.shelves.length ≤ p ->
    total (Custody.permits p) s.clients = 0
  conserved : forall (p : Nat) (shelf : Shelf), s.shelves[p]? = some shelf ->
    shelf.free + total (Custody.permits p) s.clients = shelf.capacity
  idle_home : forall (p : Nat) (shelf : Shelf), s.shelves[p]? = some shelf ->
    forall token, token ∈ shelf.idle -> token.pool = p

section Permits

variable {s : State} {p i : Nat} {shelf shelf' : Shelf}
  {custody custody' : Custody}

theorem getElem?_setShelf (hshelf : s.shelves[p]? = some shelf)
    (shelf' : Shelf) (q : Nat) :
    (s.setShelf p shelf').shelves[q]? =
      if q = p then some shelf' else s.shelves[q]? :=
  getElem?_set_of_some hshelf shelf' q

theorem permitInvariant_setClient (hinv : PermitInvariant s)
    (hclient : s.clients[i]? = some custody)
    (hsame : forall q, custody'.permits q = custody.permits q) :
    PermitInvariant (s.setClient i custody') := by
  have hset : forall q, total (Custody.permits q) (s.clients.set i custody') =
      total (Custody.permits q) s.clients := by
    intro q
    have hsum := total_set (Custody.permits q) hclient custody'
    rw [hsame q] at hsum
    omega
  refine ⟨?_, ?_, hinv.idle_home⟩
  · intro q hq
    exact (hset q).trans (hinv.unbuilt q hq)
  · intro q shelf hshelf
    have hbefore := hinv.conserved q shelf hshelf
    have hafter := hset q
    simp only [State.setClient]
    omega

theorem permitInvariant_exchange (hinv : PermitInvariant s)
    (hclient : s.clients[i]? = some custody)
    (hshelf : s.shelves[p]? = some shelf)
    (hcapacity : shelf'.capacity = shelf.capacity)
    (hidle : forall token, token ∈ shelf'.idle -> token.pool = p)
    (hexchange : shelf'.free + custody'.permits p =
      shelf.free + custody.permits p)
    (hother : forall q, q ≠ p -> custody'.permits q = custody.permits q) :
    PermitInvariant ((s.setShelf p shelf').setClient i custody') := by
  have hlt : p < s.shelves.length := (List.getElem?_eq_some_iff.mp hshelf).1
  have hset : forall q, total (Custody.permits q) (s.clients.set i custody') +
      custody.permits q = total (Custody.permits q) s.clients +
        custody'.permits q := fun q =>
    total_set (Custody.permits q) hclient custody'
  refine ⟨?_, ?_, ?_⟩
  · intro q hq
    have hq' : s.shelves.length ≤ q := by
      simpa [State.setClient, State.setShelf] using hq
    have hbefore := hinv.unbuilt q hq'
    have hafter := hset q
    rw [hother q (by omega)] at hafter
    simp only [State.setClient, State.setShelf]
    omega
  · intro q shelfq hshelfq
    have hafter := hset q
    rw [show ((s.setShelf p shelf').setClient i custody').shelves[q]? =
      (s.setShelf p shelf').shelves[q]? from rfl,
      getElem?_setShelf hshelf] at hshelfq
    simp only [State.setClient, State.setShelf]
    by_cases hq : q = p
    · subst hq
      rw [if_pos rfl, Option.some.injEq] at hshelfq
      subst hshelfq
      have hbefore := hinv.conserved q shelf hshelf
      omega
    · rw [if_neg hq] at hshelfq
      have hbefore := hinv.conserved q shelfq hshelfq
      rw [hother q hq] at hafter
      omega
  · intro q shelfq hshelfq token htoken
    rw [show ((s.setShelf p shelf').setClient i custody').shelves[q]? =
      (s.setShelf p shelf').shelves[q]? from rfl,
      getElem?_setShelf hshelf] at hshelfq
    by_cases hq : q = p
    · rw [if_pos hq, Option.some.injEq] at hshelfq
      subst hshelfq
      rw [hq]
      exact hidle token htoken
    · rw [if_neg hq] at hshelfq
      exact hinv.idle_home q shelfq hshelfq token htoken

theorem giveBack_home (hinv : PermitInvariant s) {token : Token}
    (hshelf : s.shelves[token.pool]? = some shelf) :
    forall other, other ∈ (shelf.giveBack token).idle ->
      other.pool = token.pool := by
  intro other hother
  rw [Shelf.giveBack_idle, List.mem_append, List.mem_singleton] at hother
  rcases hother with hidle | rfl
  · exact hinv.idle_home token.pool shelf hshelf other hidle
  · rfl

end Permits

theorem permitInvariant_initial : PermitInvariant State.initial where
  unbuilt := by simp [State.initial]
  conserved := by simp [State.initial]
  idle_home := by simp [State.initial]

theorem permitInvariant_addShelf {s : State} (hinv : PermitInvariant s)
    (capacity : Nat) : PermitInvariant (s.addShelf capacity) := by
  have hcases : forall (p : Nat) (shelf : Shelf),
      (s.addShelf capacity).shelves[p]? = some shelf ->
      s.shelves[p]? = some shelf ∨
        p = s.shelves.length ∧
          shelf = { capacity, free := capacity, idle := [] } :=
    fun _ _ => getElem?_concat_cases
  refine ⟨?_, ?_, ?_⟩
  · intro p hp
    have hp' : s.shelves.length + 1 ≤ p := by
      simpa [State.addShelf] using hp
    exact hinv.unbuilt p (by omega)
  · intro p shelf hshelf
    rcases hcases p shelf hshelf with hold | ⟨hp, rfl⟩
    · exact hinv.conserved p shelf hold
    · have hzero := hinv.unbuilt p (Nat.le_of_eq hp.symm)
      show capacity + total (Custody.permits p) s.clients = capacity
      omega
  · intro p shelf hshelf token htoken
    rcases hcases p shelf hshelf with hold | ⟨_, rfl⟩
    · exact hinv.idle_home p shelf hold token htoken
    · cases htoken

theorem permitInvariant_step {s s' : State} {a : Action}
    (hinv : PermitInvariant s) (hstep : Step s a s') : PermitInvariant s' := by
  cases hstep with
  | join =>
      refine ⟨?_, ?_, hinv.idle_home⟩
      · intro p hp
        simpa [State.addClient, Custody.permits] using hinv.unbuilt p hp
      · intro p shelf hshelf
        simpa [State.addClient, Custody.permits] using
          hinv.conserved p shelf hshelf
  | build => exact permitInvariant_addShelf hinv _
  | acquire hclient hshelf hfree =>
      refine permitInvariant_exchange hinv hclient hshelf rfl
        (fun token htoken => hinv.idle_home _ _ hshelf token htoken) ?_ ?_
      · simp only [Shelf.takePermit, Custody.permits, if_true]
        omega
      · intro q hq
        simp [Custody.permits, Ne.symm hq]
  | pop hclient hshelf hidle =>
      rename_i i p n shelf token
      have hpool : token.pool = p :=
        hinv.idle_home p shelf hshelf token (List.mem_of_getElem? hidle)
      refine permitInvariant_exchange hinv hclient hshelf rfl ?_ ?_ ?_
      · intro other hother
        exact hinv.idle_home p shelf hshelf other
          (List.mem_of_mem_eraseIdx hother)
      · simp [Shelf.remove, Custody.permits, hpool]
      · intro q hq
        simp [Custody.permits, hpool]
  | reserve hclient hshelf hidle =>
      exact permitInvariant_setClient hinv hclient (fun _ => rfl)
  | opened hclient =>
      exact permitInvariant_setClient (s := s.openStream)
        ⟨hinv.unbuilt, hinv.conserved, hinv.idle_home⟩ hclient (fun _ => rfl)
  | discard hclient hunhealthy =>
      exact permitInvariant_setClient hinv hclient (fun _ => rfl)
  | send hclient hhealthy =>
      exact permitInvariant_setClient (s := s.setOutstanding _ _)
        ⟨hinv.unbuilt, hinv.conserved, hinv.idle_home⟩ hclient (fun _ => rfl)
  | reply hclient hhealthy =>
      exact permitInvariant_setClient (s := s.setOutstanding _ _)
        ⟨hinv.unbuilt, hinv.conserved, hinv.idle_home⟩ hclient (fun _ => rfl)
  | fail hclient hhealthy =>
      rcases hclient with hholding | hwaiting
      · exact permitInvariant_setClient (s := s.recordFailure _)
          ⟨hinv.unbuilt, hinv.conserved, hinv.idle_home⟩ hholding
          (fun _ => rfl)
      · exact permitInvariant_setClient (s := s.recordFailure _)
          ⟨hinv.unbuilt, hinv.conserved, hinv.idle_home⟩ hwaiting
          (fun _ => rfl)
  | giveBack hclient hshelf =>
      refine permitInvariant_exchange hinv hclient hshelf rfl
        (giveBack_home hinv hshelf) ?_ ?_
      · simp [Shelf.giveBack, Custody.permits]
      · intro q hq
        simp [Custody.permits, Ne.symm hq]
  | abandon hclient hcustody hshelf =>
      refine permitInvariant_exchange hinv hclient hshelf rfl
        (fun token htoken => hinv.idle_home _ _ hshelf token htoken) ?_ ?_
      · rcases hcustody with rfl | rfl | ⟨token, rfl, rfl⟩ <;>
          simp [Shelf.returnPermit, Custody.permits]
      · intro q hq
        rcases hcustody with rfl | rfl | ⟨token, rfl, rfl⟩ <;>
          simp [Custody.permits, Ne.symm hq]
  | vanish hclient hshelf =>
      refine permitInvariant_exchange hinv hclient hshelf rfl
        (giveBack_home hinv hshelf) ?_ ?_
      · simp [Shelf.giveBack, Custody.permits]
      · intro q hq
        simp [Custody.permits, Ne.symm hq]

theorem reachable_permitInvariant {s : State} (h : system.Reachable s) :
    PermitInvariant s := by
  apply h.invariant
  · intro s hs
    rw [show s = State.initial from hs]
    exact permitInvariant_initial
  · intro s a s' _ hinv hstep
    exact permitInvariant_step hinv hstep

theorem exists_holder {s : State} (h : system.Reachable s) {p : Nat}
    {shelf : Shelf} (hshelf : s.shelves[p]? = some shelf)
    (hfree : shelf.free = 0) (hcapacity : 0 < shelf.capacity) :
    exists (i : Nat) (custody : Custody),
      s.clients[i]? = some custody ∧ 0 < custody.permits p := by
  have hconserved := (reachable_permitInvariant h).conserved p shelf hshelf
  rcases exists_of_total_pos (Custody.permits p) (l := s.clients) (by omega)
    with ⟨custody, hmem, hpos⟩
  rcases List.getElem?_of_mem hmem with ⟨i, hi⟩
  exact ⟨i, custody, hi, hpos⟩

/-!
## Capacity
-/

/-- The connections of a pool, idle or held, and those being opened. -/
def occupied (p : Nat) (s : State) : Nat :=
  weigh (ofPool p) s + total (Custody.slots p) s.clients

theorem occupied_le_permits (p : Nat) (custody : Custody) :
    custody.weigh (ofPool p) + custody.slots p ≤ custody.permits p := by
  cases custody <;> simp [Custody.slots, Custody.permits, ofPool]

theorem total_occupied_le_permits (p : Nat) (clients : List Custody) :
    total (Custody.weigh (ofPool p)) clients +
        total (Custody.slots p) clients ≤
      total (Custody.permits p) clients := by
  rw [<- total_add]
  exact total_mono (fun custody _ => occupied_le_permits p custody)

theorem occupied_le_total_permits {s : State} (hinv : PermitInvariant s)
    {p : Nat} (hidle : forall shelf, s.shelves[p]? = some shelf ->
      shelf.idle = []) :
    occupied p s ≤ total (Custody.permits p) s.clients := by
  have hzero : total (fun shelf => total (ofPool p) shelf.idle) s.shelves =
      0 := by
    apply total_eq_zero
    intro other hother
    rcases List.getElem?_of_mem hother with ⟨q, hq⟩
    apply total_eq_zero
    intro token htoken
    have hpool := hinv.idle_home q other hq token htoken
    unfold ofPool
    rw [if_neg]
    intro htokenPool
    have hqp : q = p := hpool.symm.trans htokenPool
    rw [hidle other (hqp ▸ hq)] at htoken
    cases htoken
  have hcover := total_occupied_le_permits p s.clients
  unfold occupied weigh
  omega

theorem occupied_le_of_idle_nil {s : State} (hinv : PermitInvariant s) {p : Nat}
    {shelf : Shelf} (hshelf : s.shelves[p]? = some shelf)
    (hidle : shelf.idle = []) : occupied p s ≤ shelf.capacity := by
  have hle := occupied_le_total_permits hinv (p := p) (by
    intro other hother
    rw [hshelf, Option.some.injEq] at hother
    rw [<- hother]
    exact hidle)
  have hconserved := hinv.conserved p shelf hshelf
  omega

section Capacity

variable {s : State} {i : Nat} {custody : Custody}

theorem occupied_setClient (hclient : s.clients[i]? = some custody)
    (custody' : Custody) (p : Nat) :
    occupied p (s.setClient i custody') +
        (custody.weigh (ofPool p) + custody.slots p) =
      occupied p s + (custody'.weigh (ofPool p) + custody'.slots p) := by
  have hweigh := weigh_setClient (w := ofPool p) hclient custody'
  have hslots := total_set (Custody.slots p) hclient custody'
  unfold occupied
  simp only [State.setClient] at hweigh ⊢
  omega

theorem occupied_move_le {t : State} {p : Nat} {custody' : Custody}
    (hclient : t.clients[i]? = some custody)
    (hbase : occupied p t = occupied p s)
    (hle : custody'.weigh (ofPool p) + custody'.slots p ≤
      custody.weigh (ofPool p) + custody.slots p) :
    occupied p (t.setClient i custody') ≤ occupied p s := by
  have hsum := occupied_setClient hclient custody' p
  omega

theorem occupied_exchange_le {p q : Nat} {shelf shelf' : Shelf}
    {custody' : Custody} (hclient : s.clients[i]? = some custody)
    (hshelf : s.shelves[q]? = some shelf)
    (hle : custody'.weigh (ofPool p) + custody'.slots p +
        total (ofPool p) shelf'.idle ≤
      custody.weigh (ofPool p) + custody.slots p +
        total (ofPool p) shelf.idle) :
    occupied p ((s.setShelf q shelf').setClient i custody') ≤
      occupied p s := by
  have hweigh := weigh_setShelf_setClient (w := ofPool p) hclient hshelf
    shelf' custody'
  have hslots := total_set (Custody.slots p) hclient custody'
  unfold occupied
  simp only [State.setClient, State.setShelf] at hweigh ⊢
  omega

end Capacity

/-- Only `reserve` raises the occupation of a pool, and only of one whose idle
queue is empty. -/
theorem occupied_step {s s' : State} {a : Action} (hstep : Step s a s')
    (hreserve : a ≠ .reserve) (p : Nat) : occupied p s' ≤ occupied p s := by
  cases hstep with
  | join => simp [occupied, State.addClient, weigh, Custody.slots]
  | build => simp [occupied, State.addShelf, weigh]
  | acquire hclient hshelf hfree =>
      apply occupied_exchange_le hclient hshelf
      simp [Custody.slots]
  | pop hclient hshelf hidle =>
      apply occupied_exchange_le hclient hshelf
      have herase := total_eraseIdx (ofPool p) hidle
      simp only [Custody.weigh_permit, Custody.weigh_holding, Custody.slots,
        Shelf.remove_idle]
      omega
  | reserve hclient hshelf hidle => exact absurd rfl hreserve
  | opened hclient =>
      refine occupied_move_le (t := s.openStream) hclient rfl ?_
      simp [Custody.slots, ofPool]
  | discard hclient hunhealthy =>
      apply occupied_move_le hclient rfl
      simp [Custody.slots]
  | send hclient hhealthy =>
      refine occupied_move_le (t := s.setOutstanding _ _) hclient rfl ?_
      simp [Custody.slots]
  | reply hclient hhealthy =>
      refine occupied_move_le (t := s.setOutstanding _ _) hclient rfl ?_
      simp [Custody.slots]
  | fail hclient hhealthy =>
      rename_i i token
      have hpool : ofPool p token.fail = ofPool p token := rfl
      rcases hclient with hholding | hwaiting
      · refine occupied_move_le (t := s.recordFailure token) hholding rfl ?_
        simp [Custody.slots, hpool]
      · refine occupied_move_le (t := s.recordFailure token) hwaiting rfl ?_
        simp [Custody.slots, hpool]
  | giveBack hclient hshelf =>
      apply occupied_exchange_le hclient hshelf
      simp only [Custody.weigh_nothing, Custody.weigh_holding, Custody.slots,
        Shelf.giveBack_idle, total_append, total_cons, total_nil]
      omega
  | abandon hclient hcustody hshelf =>
      apply occupied_exchange_le hclient hshelf
      simp [Custody.slots]
  | vanish hclient hshelf =>
      apply occupied_exchange_le hclient hshelf
      simp only [Custody.weigh_nothing, Custody.weigh_waiting, Custody.slots,
        Shelf.giveBack_idle, total_append, total_cons, total_nil]
      omega

theorem shelf_origin {s s' : State} {a : Action} (hstep : Step s a s')
    {p : Nat} {shelf' : Shelf} (hshelf' : s'.shelves[p]? = some shelf') :
    (exists shelf, s.shelves[p]? = some shelf ∧
      shelf.capacity = shelf'.capacity) ∨ shelf'.idle = [] := by
  have hset : forall {q : Nat} {old new : Shelf},
      s.shelves[q]? = some old ->
      (s.setShelf q new).shelves[p]? = some shelf' ->
      new.capacity = old.capacity ->
      exists shelf, s.shelves[p]? = some shelf ∧
        shelf.capacity = shelf'.capacity := by
    intro q old new hold hnew hcapacity
    rw [getElem?_setShelf hold] at hnew
    by_cases hp : p = q
    · rw [if_pos hp, Option.some.injEq] at hnew
      subst hnew
      exact ⟨old, hp ▸ hold, hcapacity.symm⟩
    · rw [if_neg hp] at hnew
      exact ⟨shelf', hnew, rfl⟩
  cases hstep with
  | build =>
      rcases getElem?_concat_cases hshelf' with hold | ⟨_, hnew⟩
      · exact Or.inl ⟨shelf', hold, rfl⟩
      · exact Or.inr (by rw [hnew])
  | acquire hclient hshelf hfree => exact Or.inl (hset hshelf hshelf' rfl)
  | pop hclient hshelf hidle => exact Or.inl (hset hshelf hshelf' rfl)
  | giveBack hclient hshelf => exact Or.inl (hset hshelf hshelf' rfl)
  | abandon hclient hcustody hshelf => exact Or.inl (hset hshelf hshelf' rfl)
  | vanish hclient hshelf => exact Or.inl (hset hshelf hshelf' rfl)
  | join => exact Or.inl ⟨shelf', hshelf', rfl⟩
  | reserve => exact Or.inl ⟨shelf', hshelf', rfl⟩
  | opened => exact Or.inl ⟨shelf', hshelf', rfl⟩
  | discard => exact Or.inl ⟨shelf', hshelf', rfl⟩
  | send => exact Or.inl ⟨shelf', hshelf', rfl⟩
  | reply => exact Or.inl ⟨shelf', hshelf', rfl⟩
  | fail => exact Or.inl ⟨shelf', hshelf', rfl⟩

/-- No pool ever has more connections, alive or being opened, than permits. -/
theorem occupied_le_capacity {s : State} (h : system.Reachable s) :
    forall (p : Nat) (shelf : Shelf), s.shelves[p]? = some shelf ->
      occupied p s ≤ shelf.capacity := by
  induction h with
  | init hs =>
      intro p shelf hshelf
      rw [show _ = State.initial from hs] at hshelf
      simp [State.initial] at hshelf
  | step hreach hstep ih =>
      rename_i s s' a
      intro p shelf' hshelf'
      have hinv' : PermitInvariant s' :=
        permitInvariant_step (reachable_permitInvariant hreach) hstep
      rcases shelf_origin hstep hshelf' with ⟨shelf, hshelf, hcapacity⟩ | hnil
      · have hbefore := ih p shelf hshelf
        by_cases hreserve : a = .reserve
        · subst hreserve
          cases hstep with
          | reserve hclient hshelfq hidle =>
              rename_i i q shelfq
              by_cases hp : p = q
              · subst hp
                have heq : some shelfq = some shelf' :=
                  hshelfq.symm.trans hshelf'
                rw [Option.some.injEq] at heq
                exact occupied_le_of_idle_nil hinv' hshelf' (heq ▸ hidle)
              · have hsum := occupied_setClient hclient (.slot q) p
                simp only [Custody.weigh_permit, Custody.weigh_slot,
                  Custody.slots, if_neg (Ne.symm hp)] at hsum
                omega
        · have hle := occupied_step hstep hreserve p
          omega
      · exact occupied_le_of_idle_nil hinv' hshelf' hnil

theorem occupied_le_of_capacity {s : State} (h : system.Reachable s)
    {p capacity : Nat}
    (hcapacity : forall shelf, s.shelves[p]? = some shelf ->
      shelf.capacity ≤ capacity) : occupied p s ≤ capacity := by
  cases hshelf : s.shelves[p]? with
  | some shelf =>
      have hle := occupied_le_capacity h p shelf hshelf
      have hbound := hcapacity shelf hshelf
      omega
  | none =>
      have hinv := reachable_permitInvariant h
      have hle := occupied_le_total_permits hinv (p := p) (by
        intro shelf hsome
        rw [hshelf] at hsome
        cases hsome)
      have hzero := hinv.unbuilt p (List.getElem?_eq_none_iff.mp hshelf)
      omega

/-!
## Failures on the connections that exist

Every failure takes one healthy connection out of use, so from any instant on
at most `capacity` operations fail on the connections a pool has by then.
-/

theorem healthyBelow_le_ofPool (p bound : Nat) (token : Token) :
    healthyBelow p bound token ≤ ofPool p token := by
  unfold healthyBelow ofPool
  by_cases hpool : token.pool = p <;> simp [hpool]
  split <;> omega

theorem healthyBelow_fail (p bound : Nat) (token : Token) :
    healthyBelow p bound token.fail = 0 := by
  simp [healthyBelow, Token.fail]

theorem failed_le_capacity {s s' : State} {actions : List Action}
    {p capacity : Nat} (hs : system.Reachable s)
    (hrun : system.Run s actions s')
    (hcapacity : forall shelf, s.shelves[p]? = some shelf ->
      shelf.capacity ≤ capacity) :
    exists newFailed, s'.failed = s.failed ++ newFailed ∧
      total (healthyBelow p s.streams) newFailed ≤ capacity := by
  have hrunning : exists newFailed, s'.failed = s.failed ++ newFailed ∧
      weigh (healthyBelow p s.streams) s' +
        total (healthyBelow p s.streams) newFailed ≤
      weigh (healthyBelow p s.streams) s := by
    have hgeneral : forall bound, bound ≤ s.streams ->
        exists newFailed, s'.failed = s.failed ++ newFailed ∧
          weigh (healthyBelow p bound) s' +
            total (healthyBelow p bound) newFailed ≤
          weigh (healthyBelow p bound) s := by
      clear hs hcapacity
      induction hrun with
      | nil s =>
          intro bound _
          exact ⟨[], by simp, by simp⟩
      | cons hfirst _ ih =>
          intro bound hbound
          rcases step_accounting hfirst with ⟨newFailed, newOpened, hacc⟩
          have hstreams := hacc.streams
          rcases ih bound (by omega) with ⟨laterFailed, hlater, hle⟩
          refine ⟨newFailed ++ laterFailed, ?_, ?_⟩
          · rw [hlater, hacc.failed, List.append_assoc]
          · have hbalance := hacc.balance (healthyBelow p bound)
            have hopened : total (healthyBelow p bound) newOpened = 0 := by
              apply total_eq_zero
              intro token htoken
              have hnext := hacc.opened_next token htoken
              unfold healthyBelow
              rw [if_neg]
              omega
            have hfail : total
                (fun token => healthyBelow p bound token.fail) newFailed = 0 :=
              total_eq_zero (fun token _ => healthyBelow_fail p bound token)
            rw [total_append]
            omega
    exact hgeneral s.streams (Nat.le_refl _)
  rcases hrunning with ⟨newFailed, hfailed, hle⟩
  refine ⟨newFailed, hfailed, ?_⟩
  have hpool : weigh (healthyBelow p s.streams) s ≤ weigh (ofPool p) s :=
    weigh_mono (healthyBelow_le_ofPool p s.streams)
  have hoccupied := occupied_le_of_capacity hs hcapacity
  unfold occupied at hoccupied
  omega

/-!
## Connections that never failed
-/

def unhealthyOn (stream : Nat) (token : Token) : Nat :=
  if token.healthy = false ∧ token.stream = stream then 1 else 0

theorem unhealthyOn_eq_zero {s : State} (h : system.Reachable s) {n : Nat}
    (hnever : forall token, token ∈ s.failed -> token.stream ≠ n) :
    weigh (unhealthyOn n) s = 0 := by
  induction h with
  | init hs =>
      rw [show _ = State.initial from hs]
      rfl
  | step hreach hstep ih =>
      rename_i s s' a
      rcases step_accounting hstep with ⟨newFailed, newOpened, hacc⟩
      have hbefore := ih (fun token htoken => hnever token
        (hacc.failed ▸ List.mem_append_left newFailed htoken))
      have hopened : total (unhealthyOn n) newOpened = 0 := by
        apply total_eq_zero
        intro token htoken
        simp [unhealthyOn, hacc.opened_healthy token htoken]
      have hfailed : total (fun token => unhealthyOn n token.fail) newFailed =
          0 := by
        apply total_eq_zero
        intro token htoken
        have hne := hnever token
          (hacc.failed ▸ List.mem_append_right s.failed htoken)
        simp [unhealthyOn, Token.fail, hne]
      have hbalance := hacc.balance (unhealthyOn n)
      omega

/-!
## Unanswered requests

As long as no client vanishes while it waits, the requests outstanding on a
healthy connection are those of the client that waits on it.
-/

def noVanish (_ : State) (a : Action) : Prop :=
  a ≠ .vanish

def awaited (stream : Nat) (s : State) : Nat :=
  total (Custody.awaits (healthyOn stream)) s.clients

structure QuietInvariant (s : State) : Prop where
  fresh : forall n, s.streams ≤ n -> s.outstanding n = 0
  balanced : forall n, weigh (healthyOn n) s = 1 ->
    s.outstanding n = awaited n s

theorem awaits_le_weigh (w : Token -> Nat) (custody : Custody) :
    custody.awaits w ≤ custody.weigh w := by
  cases custody <;> simp [Custody.awaits]

theorem awaited_le_weigh (n : Nat) (s : State) :
    awaited n s ≤ weigh (healthyOn n) s := by
  have hle : awaited n s ≤ total (Custody.weigh (healthyOn n)) s.clients :=
    total_mono (fun custody _ => awaits_le_weigh (healthyOn n) custody)
  unfold weigh
  omega

theorem awaited_setClient {s : State} {i : Nat} {custody : Custody}
    (hclient : s.clients[i]? = some custody) (custody' : Custody) (n : Nat) :
    awaited n (s.setClient i custody') + custody.awaits (healthyOn n) =
      awaited n s + custody'.awaits (healthyOn n) :=
  total_set (Custody.awaits (healthyOn n)) hclient custody'

/-- The balance of a stream that is healthy after a step held before it. -/
theorem balanced_before {s s' : State} {newFailed newOpened : List Token}
    (hstream : StreamInvariant s) (hinv : QuietInvariant s)
    (hacc : Accounting s s' newFailed newOpened) {n : Nat}
    (hafter : weigh (healthyOn n) s' = 1) :
    s.outstanding n = awaited n s := by
  by_cases hn : n < s.streams
  · have hle := hacc.healthyOn (n := n) (by omega)
    have hunique := hstream.unique n
    exact hinv.balanced n (by omega)
  · have hzero := hinv.fresh n (by omega)
    have hnone := hstream.fresh n (by omega)
    have hle : weigh (healthyOn n) s ≤ weigh (onStream n) s :=
      weigh_mono (healthyOn_le_onStream n)
    have hawaited := awaited_le_weigh n s
    omega

theorem client_stream_lt {s : State} (hstream : StreamInvariant s) {i : Nat}
    {custody : Custody} {token : Token}
    (hclient : s.clients[i]? = some custody)
    (hcustody : forall w, custody.weigh w = w token) :
    token.stream < s.streams := by
  have hle := weigh_client_le (w := onStream token.stream) hclient
  rw [hcustody, show onStream token.stream token = 1 by simp [onStream]] at hle
  exact hstream.stream_lt hle

section Quiet

variable {s s' : State} {i : Nat} {custody custody' : Custody} {token : Token}

theorem awaited_idle {t : State} (hclients : t.clients = s.clients)
    (hclient : s.clients[i]? = some custody)
    (hbefore : forall w, custody.awaits w = 0)
    (hafter : forall w, custody'.awaits w = 0) (n : Nat) :
    awaited n (t.setClient i custody') = awaited n s := by
  have hsum := awaited_setClient hclient custody' n
  rw [hbefore, hafter] at hsum
  simpa [awaited, State.setClient, hclients] using hsum

theorem quietInvariant_still {a : Action} (hstream : StreamInvariant s)
    (hinv : QuietInvariant s) (hstep : Step s a s')
    (houtstanding : s'.outstanding = s.outstanding)
    (hawaited : forall n, awaited n s' = awaited n s) :
    QuietInvariant s' := by
  rcases step_accounting hstep with ⟨newFailed, newOpened, hacc⟩
  have hstreams := hacc.streams
  constructor
  · intro n hn
    rw [houtstanding]
    exact hinv.fresh n (by omega)
  · intro n hone
    rw [houtstanding, hawaited n]
    exact balanced_before hstream hinv hacc hone

theorem quietInvariant_exchange {a : Action} {count : Nat}
    (hstream : StreamInvariant s) (hinv : QuietInvariant s)
    (hclient : s.clients[i]? = some custody)
    (hcustody : forall w, custody.weigh w = w token)
    (hstep : Step s a
      ((s.setOutstanding token.stream count).setClient i custody'))
    (hcount : s.outstanding token.stream = awaited token.stream s ->
      count + custody.awaits (healthyOn token.stream) =
        s.outstanding token.stream + custody'.awaits (healthyOn token.stream))
    (hother : forall n, n ≠ token.stream ->
      custody.awaits (healthyOn n) = custody'.awaits (healthyOn n)) :
    QuietInvariant
      ((s.setOutstanding token.stream count).setClient i custody') := by
  rcases step_accounting hstep with ⟨newFailed, newOpened, hacc⟩
  have hlt := client_stream_lt hstream hclient hcustody
  constructor
  · intro n hn
    have hn' : s.streams ≤ n := hn
    show (if n = token.stream then count else s.outstanding n) = 0
    rw [if_neg (by omega)]
    exact hinv.fresh n hn'
  · intro n hone
    have hbefore := balanced_before hstream hinv hacc hone
    have hsum := awaited_setClient hclient custody' n
    show (if n = token.stream then count else s.outstanding n) =
      awaited n (s.setClient i custody')
    by_cases hn : n = token.stream
    · subst hn
      have hmoved := hcount hbefore
      rw [if_pos rfl]
      omega
    · have hsame := hother n hn
      rw [if_neg hn]
      omega

theorem quietInvariant_send (hstream : StreamInvariant s)
    (hinv : QuietInvariant s)
    (hclient : s.clients[i]? = some (.holding token))
    (hhealthy : token.healthy = true) :
    QuietInvariant ((s.setOutstanding token.stream
      (s.outstanding token.stream + 1)).setClient i (.waiting token)) := by
  apply quietInvariant_exchange hstream hinv hclient (fun _ => rfl)
    (Step.send hclient hhealthy)
  · intro _
    simp [Custody.awaits, healthyOn, hhealthy]
  · intro n hn
    simp [Custody.awaits, healthyOn, Ne.symm hn]

theorem quietInvariant_reply (hstream : StreamInvariant s)
    (hinv : QuietInvariant s)
    (hclient : s.clients[i]? = some (.waiting token))
    (hhealthy : token.healthy = true) :
    QuietInvariant ((s.setOutstanding token.stream
      (s.outstanding token.stream - 1)).setClient i (.holding token)) := by
  have hone : (Custody.waiting token).awaits (healthyOn token.stream) = 1 := by
    simp [Custody.awaits, healthyOn, hhealthy]
  apply quietInvariant_exchange hstream hinv hclient (fun _ => rfl)
    (Step.reply hclient hhealthy)
  · intro hbalanced
    have hle : (Custody.waiting token).awaits (healthyOn token.stream) ≤
        awaited token.stream s :=
      weight_le_total _ (List.mem_of_getElem? hclient)
    rw [hone] at hle ⊢
    simp only [Custody.awaits]
    omega
  · intro n hn
    simp [Custody.awaits, healthyOn, Ne.symm hn]

/-- A failure takes the only healthy owner of its stream out of the balance. -/
theorem quietInvariant_fail (hstream : StreamInvariant s)
    (hinv : QuietInvariant s)
    (hclient : s.clients[i]? = some (.waiting token))
    (hhealthy : token.healthy = true) :
    QuietInvariant
      ((s.recordFailure token).setClient i (.holding token.fail)) := by
  have hstep := Step.fail (Or.inr hclient) hhealthy
  rcases step_accounting hstep with ⟨newFailed, newOpened, hacc⟩
  have hgone := (streamInvariant_step hstream hstep).failed_gone token
    (by simp)
  refine ⟨fun n hn => hinv.fresh n hn, ?_⟩
  intro n hone
  have hbefore := balanced_before hstream hinv hacc hone
  have hsum := awaited_setClient hclient (.holding token.fail) n
  have hne : n ≠ token.stream := by
    intro h
    rcases h with rfl
    omega
  have hcount : healthyOn n token = 0 := by
    simp [healthyOn, Ne.symm hne]
  simp only [Custody.awaits, hcount] at hsum
  show s.outstanding n = awaited n (s.setClient i (.holding token.fail))
  omega

end Quiet

theorem quietInvariant_step {s s' : State} {a : Action}
    (hstream : StreamInvariant s) (hinv : QuietInvariant s)
    (hstep : Step s a s') (ha : a ≠ .vanish) : QuietInvariant s' := by
  cases hstep with
  | join =>
      refine quietInvariant_still hstream hinv Step.join rfl ?_
      intro n
      simp [awaited, State.addClient, Custody.awaits]
  | build => exact quietInvariant_still hstream hinv Step.build rfl (fun _ => rfl)
  | acquire hclient hshelf hfree =>
      exact quietInvariant_still hstream hinv
        (Step.acquire hclient hshelf hfree) rfl
        (awaited_idle rfl hclient (fun _ => rfl) (fun _ => rfl))
  | pop hclient hshelf hidle =>
      exact quietInvariant_still hstream hinv
        (Step.pop hclient hshelf hidle) rfl
        (awaited_idle rfl hclient (fun _ => rfl) (fun _ => rfl))
  | reserve hclient hshelf hidle =>
      exact quietInvariant_still hstream hinv
        (Step.reserve hclient hshelf hidle) rfl
        (awaited_idle rfl hclient (fun _ => rfl) (fun _ => rfl))
  | opened hclient =>
      exact quietInvariant_still hstream hinv (Step.opened hclient) rfl
        (awaited_idle rfl hclient (fun _ => rfl) (fun _ => rfl))
  | discard hclient hunhealthy =>
      exact quietInvariant_still hstream hinv
        (Step.discard hclient hunhealthy) rfl
        (awaited_idle rfl hclient (fun _ => rfl) (fun _ => rfl))
  | send hclient hhealthy =>
      exact quietInvariant_send hstream hinv hclient hhealthy
  | reply hclient hhealthy =>
      exact quietInvariant_reply hstream hinv hclient hhealthy
  | fail hclient hhealthy =>
      rcases hclient with hholding | hwaiting
      · exact quietInvariant_still hstream hinv
          (Step.fail (Or.inl hholding) hhealthy) rfl
          (awaited_idle rfl hholding (fun _ => rfl) (fun _ => rfl))
      · exact quietInvariant_fail hstream hinv hwaiting hhealthy
  | giveBack hclient hshelf =>
      exact quietInvariant_still hstream hinv
        (Step.giveBack hclient hshelf) rfl
        (awaited_idle rfl hclient (fun _ => rfl) (fun _ => rfl))
  | abandon hclient hcustody hshelf =>
      refine quietInvariant_still hstream hinv
        (Step.abandon hclient hcustody hshelf) rfl
        (awaited_idle rfl hclient ?_ (fun _ => rfl))
      intro w
      rcases hcustody with rfl | rfl | ⟨token, rfl, _⟩ <;> rfl
  | vanish hclient hshelf => exact absurd rfl ha

theorem reachable_quietInvariant {s : State}
    (h : (system.restrict noVanish).Reachable s) : QuietInvariant s := by
  induction h with
  | init hs =>
      rw [show _ = State.initial from hs]
      exact ⟨fun _ _ => rfl, fun _ _ => rfl⟩
  | step hreach hstep ih =>
      exact quietInvariant_step
        (reachable_streamInvariant (hreach.of_restrict)) ih hstep.left
        hstep.right

theorem awaited_eq_zero_of_holding {s : State} (hstream : StreamInvariant s)
    {i : Nat} {token : Token} (hclient : s.clients[i]? = some (.holding token))
    (hhealthy : token.healthy = true) : awaited token.stream s = 0 := by
  have hunique := hstream.unique token.stream
  have hone : healthyOn token.stream token = 1 := by
    simp [healthyOn, hhealthy]
  have hawaits := awaited_setClient hclient .nothing token.stream
  have hweigh := weigh_setClient (w := healthyOn token.stream) hclient .nothing
  have hle := awaited_le_weigh token.stream (s.setClient i .nothing)
  simp only [Custody.awaits, Custody.weigh_nothing, Custody.weigh_holding]
    at hawaits hweigh
  omega

theorem outstanding_eq_zero_of_holding {s : State}
    (h : (system.restrict noVanish).Reachable s) {i : Nat} {token : Token}
    (hclient : s.clients[i]? = some (.holding token))
    (hhealthy : token.healthy = true) : s.outstanding token.stream = 0 := by
  have hstream := reachable_streamInvariant h.of_restrict
  have hawaited := awaited_eq_zero_of_holding hstream hclient hhealthy
  have hunique := hstream.unique token.stream
  have hle := weigh_client_le (w := healthyOn token.stream) hclient
  have hone : healthyOn token.stream token = 1 := by
    simp [healthyOn, hhealthy]
  rw [Custody.weigh_holding] at hle
  have hbalanced := (reachable_quietInvariant h).balanced token.stream
    (by omega)
  omega

end ConnectionPool
