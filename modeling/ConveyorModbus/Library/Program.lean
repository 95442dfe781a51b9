import Mathlib.Logic.Basic

/-!
# Programs over an effect signature

A program either returns a value or performs one effect and continues with the
reply.  Nothing is said here about what an effect does: the environment may
answer with any reply of the right type, and a module that fixes a signature
decides which replies its own machine produces.

The module gives the monad structure, the traces a program can follow, the
translation of a program over one signature into a program over a finer one,
a typestate logic for the order in which a program performs its effects, and
the run of a program in an environment that answers every effect.
-/

namespace Effects

/-- A program with effects in `E`, where effect `e` is answered by an `R e`. -/
inductive Program (E : Type) (R : E -> Type) (A : Type) : Type where
  | ret (a : A)
  | perform (e : E) (k : R e -> Program E R A)

abbrev Event {E : Type} (R : E -> Type) : Type := Sigma R

namespace Program

variable {E F : Type} {R : E -> Type} {S : F -> Type} {A B : Type}

/-!
## Sequencing
-/

def bind (p : Program E R A) (f : A -> Program E R B) : Program E R B :=
  match p with
  | ret a => f a
  | perform e k => perform e (fun r => (k r).bind f)

def lift (e : E) : Program E R (R e) :=
  perform e ret

instance : Monad (Program E R) where
  pure := ret
  bind := bind

@[simp] theorem pure_eq (a : A) : (pure a : Program E R A) = ret a := rfl

@[simp] theorem ret_bind (a : A) (f : A -> Program E R B) :
    ret a >>= f = f a := rfl

@[simp] theorem perform_bind (e : E) (k : R e -> Program E R A)
    (f : A -> Program E R B) :
    perform e k >>= f = perform e (fun r => k r >>= f) := rfl

@[simp] theorem lift_bind (e : E) (f : R e -> Program E R B) :
    lift e >>= f = perform e f := rfl

theorem bind_ret (p : Program E R A) : p >>= ret = p := by
  induction p with
  | ret a => rfl
  | perform e k ih =>
      rw [perform_bind]
      exact congrArg (perform e) (funext ih)

theorem bind_assoc {C : Type} (p : Program E R A)
    (f : A -> Program E R B) (g : B -> Program E R C) :
    p >>= f >>= g = p >>= fun a => f a >>= g := by
  induction p with
  | ret a => rfl
  | perform e k ih =>
      simp only [perform_bind]
      exact congrArg (perform e) (funext ih)

instance : LawfulMonad (Program E R) :=
  LawfulMonad.mk' (Program E R) bind_ret (fun _ _ => rfl) bind_assoc

/-!
## Traces

`After p l q` holds when `p` performs the events of `l` in order and is left
with the program `q`.
-/

inductive After : Program E R A -> List (Event R) -> Program E R A -> Prop where
  | refl (p : Program E R A) : After p [] p
  | step {e : E} {k : R e -> Program E R A} {r : R e}
      {l : List (Event R)} {q : Program E R A} :
      After (k r) l q -> After (perform e k) (⟨e, r⟩ :: l) q

/-- A complete trace: the program performs `l` and returns `a`. -/
abbrev Returns (p : Program E R A) (l : List (Event R)) (a : A) : Prop :=
  After p l (ret a)

theorem After.snoc {p : Program E R A} {l : List (Event R)} {e : E}
    {k : R e -> Program E R A} (h : After p l (perform e k)) (r : R e) :
    After p (l ++ [⟨e, r⟩]) (k r) := by
  generalize hq : perform e k = q at h
  induction h with
  | refl p =>
      subst hq
      exact After.step (After.refl (k r))
  | step _ ih => exact After.step (ih hq)

theorem returns_ret_iff {a b : A} {l : List (Event R)} :
    Returns (ret a) l b <-> l = [] ∧ a = b := by
  constructor
  · intro h
    cases h
    exact ⟨rfl, rfl⟩
  · intro h
    rcases h with ⟨rfl, rfl⟩
    exact After.refl (ret a)

theorem returns_perform_iff {e : E} {k : R e -> Program E R A}
    {l : List (Event R)} {a : A} :
    Returns (perform e k) l a <->
      exists r rest, l = ⟨e, r⟩ :: rest ∧ Returns (k r) rest a := by
  constructor
  · intro h
    cases h with
    | step htail => exact ⟨_, _, rfl, htail⟩
  · intro h
    rcases h with ⟨r, rest, rfl, htail⟩
    exact After.step htail

theorem After.bind_left {p q : Program E R A} {l : List (Event R)}
    (h : After p l q) (f : A -> Program E R B) :
    After (p >>= f) l (q >>= f) := by
  induction h with
  | refl p => exact After.refl (p >>= f)
  | step _ ih => exact After.step ih

theorem After.before {p q : Program E R A} {first rest : List (Event R)}
    {e : E} {r : R e} (h : After p (first ++ ⟨e, r⟩ :: rest) q) :
    exists k, After p first (perform e k) := by
  induction first generalizing p with
  | nil =>
      cases h with
      | step _ => exact ⟨_, After.refl _⟩
  | cons event first ih =>
      cases h with
      | step htail =>
          rcases ih htail with ⟨k, hbefore⟩
          exact ⟨k, After.step hbefore⟩

theorem After.append {p q r : Program E R A} {l m : List (Event R)}
    (hpq : After p l q) (hqr : After q m r) : After p (l ++ m) r := by
  induction hpq with
  | refl _ => exact hqr
  | step _ ih => exact After.step (ih hqr)

theorem returns_bind_iff {p : Program E R A} {f : A -> Program E R B}
    {l : List (Event R)} {b : B} :
    Returns (p >>= f) l b <->
      exists first a rest,
        l = first ++ rest ∧ Returns p first a ∧ Returns (f a) rest b := by
  constructor
  · intro h
    induction p generalizing l with
    | ret a => exact ⟨[], a, l, rfl, After.refl (ret a), h⟩
    | perform e k ih =>
        rw [perform_bind, returns_perform_iff] at h
        rcases h with ⟨r, tail, rfl, htail⟩
        rcases ih r htail with ⟨first, a, rest, rfl, hfirst, hrest⟩
        exact ⟨⟨e, r⟩ :: first, a, rest, rfl, After.step hfirst, hrest⟩
  · intro h
    rcases h with ⟨first, a, rest, rfl, hfirst, hrest⟩
    have hleft : After (p >>= f) first (f a) := hfirst.bind_left f
    exact hleft.append hrest

/-!
## Translation to a finer signature

A handler explains every effect of the coarse signature by a program over the
fine one.  A complete trace of the translated program is a complete trace of
the original in which each event is expanded by the handler.
-/

def interp (handler : (e : E) -> Program F S (R e)) :
    Program E R A -> Program F S A
  | ret a => ret a
  | perform e k => handler e >>= fun r => interp handler (k r)

@[simp] theorem interp_ret (handler : (e : E) -> Program F S (R e)) (a : A) :
    interp handler (ret a : Program E R A) = ret a := rfl

theorem interp_perform (handler : (e : E) -> Program F S (R e)) (e : E)
    (k : R e -> Program E R A) :
    interp handler (perform e k) =
      handler e >>= fun r => interp handler (k r) := rfl

theorem interp_bind (handler : (e : E) -> Program F S (R e))
    (p : Program E R A) (f : A -> Program E R B) :
    interp handler (p >>= f) =
      interp handler p >>= fun a => interp handler (f a) := by
  induction p with
  | ret a => rfl
  | perform e k ih =>
      rw [perform_bind, interp_perform, interp_perform, bind_assoc]
      exact congrArg (handler e >>= ·) (funext ih)

/-- The events of a coarse trace, each replaced by a trace of its handler. -/
inductive Expands (handler : (e : E) -> Program F S (R e)) :
    List (Event R) -> List (Event S) -> Prop where
  | nil : Expands handler [] []
  | cons {e : E} {r : R e} {events : List (Event R)}
      {first rest : List (Event S)} :
      Returns (handler e) first r ->
      Expands handler events rest ->
      Expands handler (⟨e, r⟩ :: events) (first ++ rest)

theorem expands_cons_iff {handler : (e : E) -> Program F S (R e)}
    {event : Event R} {events : List (Event R)} {l : List (Event S)} :
    Expands handler (event :: events) l <->
      exists first rest, l = first ++ rest ∧
        Returns (handler event.1) first event.2 ∧
        Expands handler events rest := by
  constructor
  · intro h
    cases h with
    | cons hfirst hrest => exact ⟨_, _, rfl, hfirst, hrest⟩
  · intro h
    rcases h with ⟨first, rest, rfl, hfirst, hrest⟩
    exact Expands.cons hfirst hrest

theorem expands_nil_iff {handler : (e : E) -> Program F S (R e)}
    {l : List (Event S)} : Expands handler [] l <-> l = [] := by
  constructor
  · intro h
    cases h
    rfl
  · intro h
    rcases h with rfl
    exact Expands.nil

theorem returns_interp_iff {handler : (e : E) -> Program F S (R e)}
    {p : Program E R A} {l : List (Event S)} {a : A} :
    Returns (interp handler p) l a <->
      exists events, Returns p events a ∧ Expands handler events l := by
  induction p generalizing l with
  | ret b =>
      constructor
      · intro h
        rw [interp_ret, returns_ret_iff] at h
        rcases h with ⟨rfl, rfl⟩
        exact ⟨[], After.refl (ret b), Expands.nil⟩
      · intro h
        rcases h with ⟨events, hreturns, hexpands⟩
        rcases returns_ret_iff.mp hreturns with ⟨rfl, rfl⟩
        rw [expands_nil_iff] at hexpands
        subst hexpands
        exact After.refl (ret b)
  | perform e k ih =>
      rw [interp_perform, returns_bind_iff]
      constructor
      · intro h
        rcases h with ⟨first, r, rest, rfl, hfirst, hrest⟩
        rcases (ih r).mp hrest with ⟨events, hreturns, hexpands⟩
        exact ⟨⟨e, r⟩ :: events, After.step hreturns,
          Expands.cons hfirst hexpands⟩
      · intro h
        rcases h with ⟨events, hreturns, hexpands⟩
        rcases returns_perform_iff.mp hreturns with ⟨r, tail, rfl, htail⟩
        rcases expands_cons_iff.mp hexpands with
          ⟨first, rest, rfl, hfirst, hrest⟩
        exact ⟨first, r, rest, rfl, hfirst, (ih r).mpr ⟨tail, htail, hrest⟩⟩

/-!
## Unfinished traces

A program that has stopped in front of an effect has stopped inside one of its
parts; a translated program, inside the translation of one effect.
-/

theorem after_perform_iff {e : E} {k : R e -> Program E R A}
    {l : List (Event R)} {q : Program E R A} :
    After (perform e k) l q <->
      (l = [] ∧ q = perform e k) ∨
        exists r rest, l = ⟨e, r⟩ :: rest ∧ After (k r) rest q := by
  constructor
  · intro h
    cases h with
    | refl _ => exact Or.inl ⟨rfl, rfl⟩
    | step htail => exact Or.inr ⟨_, _, rfl, htail⟩
  · intro h
    rcases h with ⟨rfl, rfl⟩ | ⟨r, rest, rfl, htail⟩
    · exact After.refl _
    · exact After.step htail

theorem after_bind {p : Program E R A} {f : A -> Program E R B}
    {l : List (Event R)} {q : Program E R B} (h : After (p >>= f) l q) :
    (exists e k, After p l (perform e k) ∧ q = perform e k >>= f) ∨
      exists first a rest,
        l = first ++ rest ∧ Returns p first a ∧ After (f a) rest q := by
  induction p generalizing l with
  | ret a => exact Or.inr ⟨[], a, l, rfl, After.refl (ret a), h⟩
  | perform e k ih =>
      rw [perform_bind, after_perform_iff] at h
      rcases h with ⟨rfl, rfl⟩ | ⟨r, tail, rfl, htail⟩
      · exact Or.inl ⟨e, k, After.refl _, rfl⟩
      · rcases ih r htail with
          ⟨e', k', hafter, hq⟩ | ⟨first, a, rest, rfl, hfirst, hrest⟩
        · exact Or.inl ⟨e', k', After.step hafter, hq⟩
        · exact Or.inr
            ⟨⟨e, r⟩ :: first, a, rest, rfl, After.step hfirst, hrest⟩

/-- The translation of effect `e` has begun with `rest` and stopped at `f`. -/
theorem after_interp {handler : (e : E) -> Program F S (R e)}
    {p : Program E R A} {l : List (Event S)} {f : F}
    {g : S f -> Program F S A} (h : After (interp handler p) l (perform f g)) :
    exists events e k first rest inner,
      After p events (perform e k) ∧ l = first ++ rest ∧
        Expands handler events first ∧
        After (handler e) rest (perform f inner) := by
  induction p generalizing l with
  | ret a => cases h
  | perform e k ih =>
      rw [interp_perform] at h
      rcases after_bind h with
        ⟨f', inner, hafter, hq⟩ | ⟨begun, r, tail, rfl, hbegun, htail⟩
      · cases hq
        exact ⟨[], e, k, [], l, inner, After.refl _, rfl, Expands.nil, hafter⟩
      · rcases ih r htail with
          ⟨events, e', k', first, rest, inner, hafter, rfl, hexpands, hinner⟩
        exact ⟨⟨e, r⟩ :: events, e', k', begun ++ first, rest, inner,
          After.step hafter, (List.append_assoc _ _ _).symm,
          Expands.cons hbegun hexpands, hinner⟩

theorem After.interp {handler : (e : E) -> Program F S (R e)}
    {p q : Program E R A} {events : List (Event R)} {l : List (Event S)}
    (h : After p events q) (hexpands : Expands handler events l) :
    After (interp handler p) l (interp handler q) := by
  induction h generalizing l with
  | refl p =>
      rcases expands_nil_iff.mp hexpands with rfl
      exact After.refl _
  | step _ ih =>
      rcases expands_cons_iff.mp hexpands with
        ⟨first, rest, rfl, hfirst, hrest⟩
      rw [interp_perform]
      exact (hfirst.bind_left _).append (ih hrest)

theorem expands_append_iff {handler : (e : E) -> Program F S (R e)}
    {events more : List (Event R)} {l : List (Event S)} :
    Expands handler (events ++ more) l <->
      exists first rest, l = first ++ rest ∧
        Expands handler events first ∧ Expands handler more rest := by
  induction events generalizing l with
  | nil =>
      constructor
      · intro h
        exact ⟨[], l, rfl, Expands.nil, h⟩
      · intro h
        rcases h with ⟨first, rest, rfl, hfirst, hrest⟩
        rcases expands_nil_iff.mp hfirst with rfl
        exact hrest
  | cons event events ih =>
      rw [List.cons_append, expands_cons_iff]
      constructor
      · intro h
        rcases h with ⟨begun, tail, rfl, hbegun, htail⟩
        rcases ih.mp htail with ⟨first, rest, rfl, hfirst, hrest⟩
        exact ⟨begun ++ first, rest, (List.append_assoc _ _ _).symm,
          Expands.cons hbegun hfirst, hrest⟩
      · intro h
        rcases h with ⟨first, rest, rfl, hfirst, hrest⟩
        rcases expands_cons_iff.mp hfirst with
          ⟨begun, tail, rfl, hbegun, htail⟩
        exact ⟨begun, tail ++ rest, List.append_assoc _ _ _, hbegun,
          ih.mpr ⟨tail, rest, rfl, htail, hrest⟩⟩

/-!
## Typestate

A typestate says in which states an effect may be performed and how a reply
moves the state.  `Follows T p s post` is the weakest precondition of `p` for
that discipline: on every trace the next effect is allowed, and a returned
value satisfies `post` in the state reached.
-/

end Program

structure Typestate (E : Type) (R : E -> Type) (Q : Type) where
  allowed : Q -> E -> Prop
  next : Q -> (e : E) -> R e -> Q

namespace Program

variable {E F : Type} {R : E -> Type} {S : F -> Type} {A B Q : Type}

def Follows (T : Typestate E R Q) :
    Program E R A -> Q -> (Q -> A -> Prop) -> Prop
  | ret a, s, post => post s a
  | perform e k, s, post =>
      T.allowed s e ∧ forall r, Follows T (k r) (T.next s e r) post

@[simp] theorem follows_ret (T : Typestate E R Q) (a : A) (s : Q)
    (post : Q -> A -> Prop) : Follows T (ret a) s post = post s a := rfl

@[simp] theorem follows_perform (T : Typestate E R Q) (e : E)
    (k : R e -> Program E R A) (s : Q) (post : Q -> A -> Prop) :
    Follows T (perform e k) s post =
      (T.allowed s e ∧ forall r, Follows T (k r) (T.next s e r) post) := rfl

theorem Follows.mono {T : Typestate E R Q} {p : Program E R A} {s : Q}
    {post post' : Q -> A -> Prop} (h : Follows T p s post)
    (himp : forall s a, post s a -> post' s a) : Follows T p s post' := by
  induction p generalizing s with
  | ret a => exact himp s a h
  | perform e k ih => exact ⟨h.left, fun r => ih r (h.right r)⟩

theorem Follows.bind {T : Typestate E R Q} {p : Program E R A}
    {f : A -> Program E R B} {s : Q} {post : Q -> B -> Prop}
    (h : Follows T p s (fun s' a => Follows T (f a) s' post)) :
    Follows T (p >>= f) s post := by
  induction p generalizing s with
  | ret a => exact h
  | perform e k ih => exact ⟨h.left, fun r => ih r (h.right r)⟩

def Typestate.run (T : Typestate E R Q) (s : Q) (l : List (Event R)) : Q :=
  l.foldl (fun s event => T.next s event.1 event.2) s

theorem Typestate.run_snoc (T : Typestate E R Q) (s : Q) (l : List (Event R))
    (event : Event R) :
    Typestate.run T s (l ++ [event]) =
      T.next (Typestate.run T s l) event.1 event.2 := by
  simp [Typestate.run]

theorem After.follows {T : Typestate E R Q} {p q : Program E R A}
    {l : List (Event R)} {s : Q} {post : Q -> A -> Prop}
    (h : After p l q) (hp : Follows T p s post) :
    Follows T q (Typestate.run T s l) post := by
  induction h generalizing s with
  | refl _ => exact hp
  | step _ ih => exact ih (hp.right _)

/-- A discipline every handler respects between two visits to `s` is respected
by every translated program started in `s`. -/
theorem follows_interp {T : Typestate F S Q} {s : Q}
    {handler : (e : E) -> Program F S (R e)}
    (hhandler : forall e, Follows T (handler e) s (fun s' _ => s' = s))
    (p : Program E R A) :
    Follows T (interp handler p) s (fun s' _ => s' = s) := by
  induction p with
  | ret a => exact rfl
  | perform e k ih =>
      rw [interp_perform]
      apply Follows.bind
      apply (hhandler e).mono
      rintro s' r rfl
      exact ih r

/-!
## Effects a program can perform at all
-/

def Performs (allowed : E -> Prop) : Program E R A -> Prop
  | ret _ => True
  | perform e k => allowed e ∧ forall r, Performs allowed (k r)

@[simp] theorem performs_ret (allowed : E -> Prop) (a : A) :
    Performs (R := R) allowed (ret a) = True := rfl

@[simp] theorem performs_perform (allowed : E -> Prop) (e : E)
    (k : R e -> Program E R A) :
    Performs allowed (perform e k) =
      (allowed e ∧ forall r, Performs allowed (k r)) := rfl

theorem Performs.bind {allowed : E -> Prop} {p : Program E R A}
    {f : A -> Program E R B} (hp : Performs allowed p)
    (hf : forall a, Performs allowed (f a)) : Performs allowed (p >>= f) := by
  induction p with
  | ret a => exact hf a
  | perform e k ih => exact ⟨hp.left, fun r => ih r (hp.right r)⟩

theorem Performs.mono {allowed allowed' : E -> Prop} {p : Program E R A}
    (h : Performs allowed p) (himp : forall e, allowed e -> allowed' e) :
    Performs allowed' p := by
  induction p with
  | ret a => trivial
  | perform e k ih => exact ⟨himp e h.left, fun r => ih r (h.right r)⟩

theorem performs_interp {allowed : E -> Prop} {allowed' : F -> Prop}
    {handler : (e : E) -> Program F S (R e)} {p : Program E R A}
    (hhandler : forall e, allowed e -> Performs allowed' (handler e))
    (hp : Performs allowed p) : Performs allowed' (interp handler p) := by
  induction p with
  | ret a => trivial
  | perform e k ih =>
      exact (hhandler e hp.left).bind (fun r => ih r (hp.right r))

theorem After.performs {allowed : E -> Prop} {p q : Program E R A}
    {l : List (Event R)} (h : After p l q) (hp : Performs allowed p) :
    (forall event, event ∈ l -> allowed event.1) ∧ Performs allowed q := by
  induction h with
  | refl _ => exact ⟨by simp, hp⟩
  | step _ ih =>
      rcases ih (hp.right _) with ⟨htail, hq⟩
      refine ⟨?_, hq⟩
      intro event hevent
      cases hevent with
      | head => exact hp.left
      | tail _ hmem => exact htail event hmem

/-!
## Outputs in order

A transducer reads the effects of a trace and writes a list as it goes.
`Emits T p q l` says that on every trace of `p` from `q` the list is a part of
`l`, in its order.
-/

end Program

structure Transducer (E : Type) (Q : Type) (O : Type) where
  next : Q -> E -> Q
  out : Q -> E -> List O

namespace Program

variable {E F : Type} {R : E -> Type} {S : F -> Type} {A B Q P O : Type}

def Transducer.run (T : Transducer E Q O) (q : Q) (l : List (Event R)) : Q :=
  l.foldl (fun q event => T.next q event.1) q

def Transducer.outputs (T : Transducer E Q O) : Q -> List (Event R) -> List O
  | _, [] => []
  | q, event :: l => T.out q event.1 ++ outputs T (T.next q event.1) l

theorem Transducer.run_append (T : Transducer E Q O) (q : Q)
    (l m : List (Event R)) : run T q (l ++ m) = run T (run T q l) m := by
  simp [run]

theorem Transducer.outputs_snoc (T : Transducer E Q O) (q : Q)
    (l : List (Event R)) (event : Event R) :
    outputs T q (l ++ [event]) =
      outputs T q l ++ T.out (run T q l) event.1 := by
  induction l generalizing q with
  | nil => simp [outputs, run]
  | cons first l ih =>
      simp only [List.cons_append, outputs, ih, List.append_assoc]
      rfl

def Emits (T : Transducer E Q O) : Program E R A -> Q -> List O -> Prop
  | ret _, _, _ => True
  | perform e k, q, l => exists rest, (T.out q e ++ rest).Sublist l ∧
      forall r, Emits T (k r) (T.next q e) rest

theorem Emits.mono {T : Transducer E Q O} {p : Program E R A} {q : Q}
    {l m : List O} (h : Emits T p q l) (hle : l.Sublist m) : Emits T p q m := by
  cases p with
  | ret a => trivial
  | perform e k =>
      rcases h with ⟨rest, hout, hrest⟩
      exact ⟨rest, hout.trans hle, hrest⟩

theorem Emits.bind {T : Transducer E Q O} {p : Program E R A}
    {f : A -> Program E R B} {q : Q} {l m : List O} (hp : Emits T p q l)
    (hf : forall a q', Emits T (f a) q' m) : Emits T (p >>= f) q (l ++ m) := by
  induction p generalizing q l with
  | ret a => exact (hf a q).mono (List.sublist_append_right l m)
  | perform e k ih =>
      rcases hp with ⟨rest, hout, hrest⟩
      refine ⟨rest ++ m, ?_, fun r => ih r (hrest r)⟩
      rw [<- List.append_assoc]
      exact hout.append (List.Sublist.refl m)

theorem Emits.interp {T : Transducer E Q O} {T' : Transducer F P O}
    {handler : (e : E) -> Program F S (R e)}
    (hhandler : forall e q q', Emits T' (handler e) q' (T.out q e))
    {p : Program E R A} {q : Q} {l : List O} (hp : Emits T p q l) (q' : P) :
    Emits T' (interp handler p) q' l := by
  induction p generalizing q l q' with
  | ret a => trivial
  | perform e k ih =>
      rcases hp with ⟨rest, hout, hrest⟩
      exact ((hhandler e q q').bind
        (fun r q' => ih r (hrest r) q')).mono hout

theorem After.emits {T : Transducer E Q O} {p p' : Program E R A}
    {trace : List (Event R)} (h : After p trace p') {q : Q} {l : List O}
    (hp : Emits T p q l) : exists rest,
      (Transducer.outputs T q trace ++ rest).Sublist l ∧
        Emits T p' (Transducer.run T q trace) rest := by
  induction h generalizing q l with
  | refl p => exact ⟨l, List.Sublist.refl l, hp⟩
  | step _ ih =>
      rcases hp with ⟨rest, hout, hrest⟩
      rcases ih (hrest _) with ⟨left, houtputs, hleft⟩
      refine ⟨left, ?_, hleft⟩
      simp only [Transducer.outputs, List.append_assoc]
      exact ((List.Sublist.refl _).append houtputs).trans hout

/-!
## Environments

An environment answers every effect from a state of its own.  Its answers leave
a program one complete trace.
-/

end Program

structure Environment (E : Type) (R : E -> Type) (Q : Type) where
  answer : Q -> (e : E) -> R e
  next : Q -> E -> Q

def Environment.Answers {E : Type} {R : E -> Type} {Q : Type}
    (env : Environment E R Q) : Q -> List (Event R) -> Prop
  | _, [] => True
  | q, event :: l =>
      event.2 = env.answer q event.1 ∧ env.Answers (env.next q event.1) l

namespace Program

variable {E : Type} {R : E -> Type} {A Q : Type}

/-- The run of a program: what it performs and what it returns. -/
def play (env : Environment E R Q) :
    Q -> Program E R A -> List (Event R) × A
  | _, ret a => ([], a)
  | q, perform e k =>
      let rest := play env (env.next q e) (k (env.answer q e))
      (⟨e, env.answer q e⟩ :: rest.1, rest.2)

@[simp] theorem play_ret (env : Environment E R Q) (q : Q) (a : A) :
    play env q (ret a) = ([], a) := rfl

theorem play_perform (env : Environment E R Q) (q : Q) (e : E)
    (k : R e -> Program E R A) :
    play env q (perform e k) =
      (⟨e, env.answer q e⟩ ::
          (play env (env.next q e) (k (env.answer q e))).1,
        (play env (env.next q e) (k (env.answer q e))).2) := rfl

theorem play_returns (env : Environment E R Q) (q : Q) (p : Program E R A) :
    Returns p (play env q p).1 (play env q p).2 := by
  induction p generalizing q with
  | ret a => exact After.refl (ret a)
  | perform e k ih =>
      exact After.step (ih (env.answer q e) (env.next q e))

theorem play_answers (env : Environment E R Q) (q : Q) (p : Program E R A) :
    env.Answers q (play env q p).1 := by
  induction p generalizing q with
  | ret a => trivial
  | perform e k ih =>
      constructor
      · rfl
      · exact ih (env.answer q e) (env.next q e)

/-- The run is the only complete trace the environment's answers allow. -/
theorem returns_and_answers_iff (env : Environment E R Q) (q : Q)
    (p : Program E R A) (l : List (Event R)) (a : A) :
    Returns p l a ∧ env.Answers q l <-> (l, a) = play env q p := by
  constructor
  · intro h
    rcases h with ⟨hreturns, hanswers⟩
    induction p generalizing q l with
    | ret b =>
        rcases returns_ret_iff.mp hreturns with ⟨rfl, rfl⟩
        rfl
    | perform e k ih =>
        rcases returns_perform_iff.mp hreturns with ⟨r, rest, rfl, hrest⟩
        rcases hanswers with ⟨hr, hanswers⟩
        have hreply : r = env.answer q e := hr
        subst hreply
        have hplay := ih _ (env.next q e) rest hrest hanswers
        rw [play_perform, <- hplay]
  · intro h
    rw [Prod.ext_iff] at h
    rcases h with ⟨rfl, rfl⟩
    exact ⟨play_returns env q p, play_answers env q p⟩

end Program
end Effects
