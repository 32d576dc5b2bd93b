import PgSchema.Course.Basic
import PgSchema.Proofs.Entries

/-!
Contexts as a stack of frames.

Threads open blocks and leave them, in any order among each other (`Step`).  The frames that a
thread has open are read off the steps (`openFrames`), and the context at hand is what comes of
laying them over each other, from the outermost to the innermost (`contexts_nest`).  Work whose
blocks hold each other, and which may raise and catch errors anywhere, is told in the context of its
place, as if each block handed its context down (`Work.told`), and leaves the stack as it was.
-/

namespace PgSchema.Log

/-! ### Frames -/

/-- The extras among the entries of a frame. -/
def extraOf (entries : Entries Json) : Entries Json :=
  match entries.get? Context.extraField with
  | some (.object fields) => fields
  | _ => []

/-- **What a block is opened with**: each name once, and among its extras, too, each name once. -/
structure Frame where
  entries : Entries Json
  once : entries.keys.Nodup
  extraOnce : (extraOf entries).keys.Nodup

namespace Frame

/-- The extras of a frame. -/
def extra (f : Frame) : Entries Json := extraOf f.entries

/-- The frame passes coordinates and extras and nothing else, and the extras are a dictionary. -/
def accepted (f : Frame) : Bool :=
  f.entries.keys.all (· ∈ Context.frameFields) &&
    match f.entries.get? Context.extraField with
    | none | some (.object _) => true
    | some _ => false

variable {f g : Frame}

lemma mem_of_accepted (h : f.accepted = true) :
    ∀ key ∈ f.entries.keys, key ∈ Context.frameFields := by
  simpa using (Bool.and_eq_true_iff.1 h).1

lemma frameExtra_of_accepted (h : f.accepted = true) :
    Context.frameExtra f.entries = .ok f.extra := by
  have hextra := (Bool.and_eq_true_iff.1 h).2
  unfold Context.frameExtra extra extraOf
  split at hextra <;> simp_all

/-- Two frames as one: what the second passes stands before what the first passes, and the extras of
both pile up. -/
def combine (f g : Frame) : Frame where
  entries := (f.entries.merge g.entries).put Context.extraField (.object (f.extra.merge g.extra))
  once := Entries.nodup_put (Entries.nodup_merge f.once _) _ _
  extraOnce := by
    rw [extraOf, Entries.get?_put_self]
    exact Entries.nodup_merge f.extraOnce _

lemma extra_combine (f g : Frame) : (f.combine g).extra = f.extra.merge g.extra := by
  rw [extra, extraOf, combine, Entries.get?_put_self]

lemma get?_combine (f g : Frame) {key : String} (h : key ≠ Context.extraField) :
    (f.combine g).entries.get? key = (g.entries.get? key).or (f.entries.get? key) := by
  rw [combine, Entries.get?_put_of_ne h, Entries.get?_merge_of_nodup _ g.once]

lemma accepted_combine (hf : f.accepted = true) (hg : g.accepted = true) :
    (f.combine g).accepted = true := by
  have hkeys : ∀ key ∈ (f.combine g).entries.keys, key ∈ Context.frameFields := by
    intro key hkey
    rcases Entries.mem_keys_put hkey with h | rfl
    · exact (Entries.mem_keys_merge h).elim (mem_of_accepted hf key) (mem_of_accepted hg key)
    · exact List.mem_cons_self
  have hextra : (f.combine g).entries.get? Context.extraField = some _ :=
    Entries.get?_put_self _ _ _
  rw [accepted, hextra]
  simpa using hkeys

end Frame

namespace Context

/-- A frame laid over a context, where it can be. -/
def under (context : Context) (f : Frame) : Context :=
  ⟨fun c => (f.entries.get? c.field).getD (context.coordinate c), context.extra.merge f.extra⟩

variable {f g : Frame} (context : Context)

lemma merge_of_accepted (h : f.accepted = true) :
    context.merge f.entries = .ok (context.under f) := by
  have hmem := Frame.mem_of_accepted h
  have hown : ownName ∉ f.entries.keys := fun hkey => absurd (hmem _ hkey) (by decide)
  have hnone : f.entries.keys.find? (· ∉ frameFields) = none :=
    List.find?_eq_none.2 fun key hkey => by simpa using hmem key hkey
  simp only [merge, if_neg hown, Frame.frameExtra_of_accepted h, hnone]
  rfl

/-- **A frame that is refused** is refused whatever it is to be laid over. -/
lemma merge_of_refused (h : f.accepted = false) :
    ∃ fault, ∀ context : Context, context.merge f.entries = .error fault := by
  by_cases hown : ownName ∈ f.entries.keys
  · exact ⟨_, fun context => by rw [merge, if_pos hown]; rfl⟩
  cases hextra : frameExtra f.entries with
  | error fault =>
    refine ⟨fault, fun context => ?_⟩
    simp only [merge, if_neg hown, hextra]
    rfl
  | ok extra =>
    cases hfind : f.entries.keys.find? (· ∉ frameFields) with
    | some unknown =>
      refine ⟨.unknownKeyword "LogContext.__init__" unknown, fun context => ?_⟩
      simp only [merge, if_neg hown, hextra, hfind]
      rfl
    | none =>
      -- nothing is left that could be refused
      have hkeys : f.entries.keys.all (· ∈ frameFields) = true := by
        simpa using List.find?_eq_none.1 hfind
      rw [Frame.accepted, hkeys, Bool.true_and] at h
      unfold frameExtra at hextra
      split at h <;> simp_all

/-- **Two frames, one over the other,** are laid over a context as the two of them in one. -/
lemma under_combine : (context.under f).under g = context.under (f.combine g) := by
  have hcoordinate (c : Coordinate) : c.field ≠ extraField := by cases c <;> decide
  rw [under, under, under, Context.mk.injEq]
  refine ⟨funext fun c => ?_, ?_⟩
  · rw [Frame.get?_combine f g (hcoordinate c)]
    cases g.entries.get? c.field <;> rfl
  · rw [Frame.extra_combine]
    exact (Entries.merge_assoc _ f.extraOnce _).symm

/-- The context of frames, the innermost in front. -/
def laid (frames : List Frame) : Context := frames.foldr (fun f context => context.under f) empty

lemma coordinate_laid (frames : List Frame) (c : Coordinate) :
    (laid frames).coordinate c = (frames.findSome? (·.entries.get? c.field)).getD .null := by
  induction frames with
  | nil => rfl
  | cons f frames ih =>
    rw [List.findSome?_cons]
    change (f.entries.get? c.field).getD ((laid frames).coordinate c) = _
    rw [ih]
    cases f.entries.get? c.field <;> rfl

lemma extra_laid (frames : List Frame) (key : String) :
    (laid frames).extra.get? key = frames.findSome? (·.extra.get? key) := by
  induction frames with
  | nil => rfl
  | cons f frames ih =>
    have hmerge : ((laid frames).extra.merge f.extra).get? key =
        (f.extra.get? key).or ((laid frames).extra.get? key) :=
      Entries.get?_merge_of_nodup _ f.extraOnce key
    rw [List.findSome?_cons]
    change ((laid frames).extra.merge f.extra).get? key = _
    rw [hmerge, ih]
    cases f.extra.get? key <;> rfl

/-- Frames are laid over each other one after the other. -/
lemma foldlM_merge {frames : List Frame} (h : ∀ f ∈ frames, f.accepted = true) :
    (frames.reverse.map Frame.entries).foldlM merge empty = .ok (laid frames) := by
  induction frames with
  | nil => rfl
  | cons f frames ih =>
    obtain ⟨hf, hframes⟩ := List.forall_mem_cons.1 h
    rw [List.reverse_cons, List.map_append, List.foldlM_append, ih hframes]
    change List.foldlM merge (laid frames) [f.entries] = _
    rw [List.foldlM_cons, merge_of_accepted _ hf]
    rfl

end Context

/-! ### Steps of threads -/

/-- What happens on a thread: a block is opened with a frame, or the innermost one is left, at its
end or by an error that is raised in it. -/
inductive Step (θ : Type) where
  | enter (thread : θ) (frame : Frame)
  | leave (thread : θ) (raised : Option Failure)

variable {θ : Type}

/-- The thread of a step. -/
def Step.thread : Step θ → θ
  | enter thread _ => thread
  | leave thread _ => thread

/-- The stack of a thread after a step of its own.  A block that cannot be opened is not. -/
def Stack.after (stack : Stack) : Step θ → Stack
  | .enter _ f =>
    match stack.push f.entries with
    | .ok stack => stack
    | .error _ => stack
  | .leave _ _ => stack.pop

/-- The frames of the blocks that are open after a step, the innermost in front. -/
def framesAfter (frames : List Frame) : Step θ → List Frame
  | .enter _ f => if f.accepted then f :: frames else frames
  | .leave _ _ => frames.tail

/-- The stack of blocks with frames. -/
def stackOf : List Frame → Stack
  | [] => []
  | f :: frames => (Context.laid frames).under f :: stackOf frames

lemma current_stackOf (frames : List Frame) : (stackOf frames).current = Context.laid frames := by
  cases frames <;> rfl

lemma Stack.push_of_accepted {f : Frame} (h : f.accepted = true) (stack : Stack) :
    stack.push f.entries = .ok (stack.current.under f :: stack) := by
  rw [push, Context.merge_of_accepted _ h]
  rfl

lemma Stack.push_of_refused {f : Frame} (h : f.accepted = false) :
    ∃ fault, ∀ stack : Stack, stack.push f.entries = .error fault := by
  obtain ⟨fault, hfault⟩ := Context.merge_of_refused h
  exact ⟨fault, fun stack => by rw [push, hfault]; rfl⟩

/-- **One step**: the stack is that of the frames that are open. -/
lemma after_stackOf (frames : List Frame) (step : Step θ) :
    (stackOf frames).after step = stackOf (framesAfter frames step) := by
  cases step with
  | enter thread f =>
    rw [framesAfter, Stack.after]
    cases h : f.accepted with
    | true =>
      rw [Stack.push_of_accepted h, current_stackOf]
      rfl
    | false =>
      obtain ⟨fault, hfault⟩ := Stack.push_of_refused h
      rw [hfault]
      rfl
  | leave thread raised => cases frames <;> rfl

lemma foldl_after_stackOf (steps : List (Step θ)) (frames : List Frame) :
    steps.foldl Stack.after (stackOf frames) = stackOf (steps.foldl framesAfter frames) := by
  induction steps generalizing frames with
  | nil => rfl
  | cons step steps ih => rw [List.foldl_cons, List.foldl_cons, after_stackOf, ih]

lemma accepted_of_mem_frames {steps : List (Step θ)} {frames : List Frame}
    (h : ∀ f ∈ frames, f.accepted = true) :
    ∀ f ∈ steps.foldl framesAfter frames, f.accepted = true := by
  induction steps generalizing frames with
  | nil => exact h
  | cons step steps ih =>
    refine ih ?_
    cases step with
    | enter thread g =>
      rw [framesAfter]
      split
      · rename_i hg
        exact List.forall_mem_cons.2 ⟨hg, h⟩
      · exact h
    | leave thread raised => exact fun f hf => h f (List.mem_of_mem_tail hf)

/-- **Steps that leave just the blocks that they open**, each after those inside it. -/
inductive Nested : List (Step θ) → Prop
  | nil : Nested []
  | refused {thread : θ} {f : Frame} {rest : List (Step θ)} (hf : f.accepted = false)
    (hrest : Nested rest) : Nested (.enter thread f :: rest)
  | block {thread other : θ} {f : Frame} {raised : Option Failure} {body rest : List (Step θ)}
    (hf : f.accepted = true) (hbody : Nested body) (hrest : Nested rest) :
    Nested (.enter thread f :: (body ++ .leave other raised :: rest))

/-- Such steps put the stack back as it was. -/
lemma Nested.foldl_after {steps : List (Step θ)} (h : Nested steps) (stack : Stack) :
    steps.foldl Stack.after stack = stack := by
  induction h generalizing stack with
  | nil => rfl
  | refused hf _ ih =>
    obtain ⟨fault, hfault⟩ := Stack.push_of_refused hf
    rw [List.foldl_cons, Stack.after, hfault]
    exact ih stack
  | block hf _ _ hbody hrest =>
    rw [List.foldl_cons, Stack.after, Stack.push_of_accepted hf, List.foldl_append, hbody]
    exact hrest stack

section Threads

variable [DecidableEq θ]

/-- The stacks after a step of one thread. -/
def Stacks.after (threads : Stacks θ) : Step θ → Stacks θ
  | .enter thread f =>
    match threads.enter thread f.entries with
    | .ok threads => threads
    | .error _ => threads
  | .leave thread _ => threads.leave thread

/-- The stacks after steps. -/
def Stacks.run (threads : Stacks θ) (steps : List (Step θ)) : Stacks θ := steps.foldl after threads

/-- The steps of a thread. -/
def ownSteps (thread : θ) (steps : List (Step θ)) : List (Step θ) :=
  steps.filter (·.thread = thread)

/-- **The frames of the blocks that a thread has open**, the innermost in front. -/
def openFrames (thread : θ) (steps : List (Step θ)) : List Frame :=
  (ownSteps thread steps).foldl framesAfter []

variable (threads : Stacks θ) (thread : θ)

/-- A step is seen on its own thread only. -/
lemma Stacks.after_apply (step : Step θ) :
    threads.after step thread =
      if step.thread = thread then (threads thread).after step else threads thread := by
  cases step with
  | enter other f =>
    rw [after, enter, Stack.after, Step.thread]
    by_cases hthread : other = thread
    · subst hthread
      rw [if_pos rfl]
      cases (threads other).push f.entries with
      | ok stack => exact if_pos rfl
      | error fault => rfl
    · rw [if_neg hthread]
      cases (threads other).push f.entries with
      | ok stack => exact if_neg (Ne.symm hthread)
      | error fault => rfl
  | leave other raised =>
    rw [after, leave, put, Stack.after, Step.thread]
    by_cases hthread : other = thread
    · subst hthread
      rw [if_pos rfl]
    · rw [if_neg hthread, if_neg (Ne.symm hthread)]

/-- **The stack of a thread** comes of its own steps. -/
lemma Stacks.run_apply (steps : List (Step θ)) :
    threads.run steps thread = (ownSteps thread steps).foldl Stack.after (threads thread) := by
  induction steps generalizing threads with
  | nil => rfl
  | cons step steps ih =>
    rw [run, List.foldl_cons, ← run, ih, after_apply, ownSteps, ownSteps, List.filter_cons]
    by_cases hthread : step.thread = thread
    · rw [if_pos hthread, if_pos (decide_eq_true hthread), List.foldl_cons]
    · rw [if_neg hthread, if_neg (by simpa using hthread)]

lemma ownSteps_ownSteps (steps : List (Step θ)) :
    ownSteps thread (ownSteps thread steps) = ownSteps thread steps := by
  rw [ownSteps, ownSteps, List.filter_filter]
  simp

/-- A block is left as it was entered, whatever other threads do meanwhile. -/
lemma Stacks.run_block {f : Frame} (hf : f.accepted = true) {body : List (Step θ)}
    (hbody : Nested (ownSteps thread body)) (raised : Option Failure) :
    threads.run (.enter thread f :: (body ++ [.leave thread raised])) thread = threads thread := by
  have hblock : Nested (ownSteps thread (.enter thread f :: (body ++ [.leave thread raised]))) := by
    have hown : ownSteps thread (.enter thread f :: (body ++ [.leave thread raised])) =
        .enter thread f :: (ownSteps thread body ++ [.leave thread raised]) := by
      simp [ownSteps, Step.thread]
    rw [hown]
    exact .block hf hbody .nil
  rw [run_apply, hblock.foldl_after]

end Threads

/-! ### Work in blocks -/

/-- Work of a thread: lines are told, errors raised, blocks opened, errors caught, and other work is
done on a thread of its own. -/
inductive Work where
  | done
  | line (level : Level) (channel : Channel) (message : String)
  | raise (e : Failure)
  | both (first second : Work)
  | block (frame : Frame) (body : Work)
  | caught (body : Work)
  | aside (body : Work)

namespace Work

/-- The work as an action. -/
def action {σ : Type} : Work → Action σ Unit
  | done => pure ()
  | line level channel message => .log level channel message
  | raise e => .fail e
  | both first second => do first.action; second.action
  | block f body => .framed f.entries body.action
  | caught body => do let _ ← body.action.outcome
  | aside body => .aside body.action

/-- **How work ends and which lines it tells**, in a context that its blocks hand down to what is
inside them. -/
def told : Work → Context → Except Failure Unit × List Line
  | done, _ => (.ok (), [])
  | line level channel message, context => (.ok (), [⟨level, channel, message, context⟩])
  | raise e, _ => (.error e, [])
  | both first second, context =>
    match first.told context with
    | (.ok _, lines) => ((second.told context).1, lines ++ (second.told context).2)
    | (.error e, lines) => (.error e, lines)
  | block f body, context =>
    match context.merge f.entries with
    | .ok inner => body.told inner
    | .error fault => (.error (.fault fault), [])
  | caught body, context => (.ok (), (body.told context).2)
  | aside body, _ => body.told Context.empty

/-- **Work is told in the contexts of its places**, and all its blocks are left behind it, however
they end. -/
lemma action_apply {σ : Type} (work : Work) (c : Course σ) :
    work.action c = ((work.told c.contexts.current).1,
      { c with lines := (work.told c.contexts.current).2.reverse ++ c.lines }) := by
  induction work generalizing c with
  | done => rfl
  | line level channel message => rfl
  | raise e => rfl
  | both first second hfirst hsecond =>
    simp only [action, bind, hfirst, told]
    rcases first.told c.contexts.current with ⟨e | u, lines⟩
    · rfl
    · dsimp only
      rw [hsecond, List.reverse_append, List.append_assoc]
  | block f body ih =>
    rw [action, Action.framed, told, Stack.push]
    cases hmerge : c.contexts.current.merge f.entries with
    | error fault => rfl
    | ok inner =>
      dsimp only [Except.map]
      rw [ih]
      rfl
  | caught body ih =>
    rw [action]
    change (Except.ok (), (body.action c).2) = _
    rw [ih, told]
  | aside body ih =>
    rw [action, Action.aside, ih, told]
    rfl

end Work

/-- The blocks of the library itself are blocks with a frame of one coordinate. -/
lemma within_eq_framed {σ α : Type} (coordinate : Coordinate) (value : String)
    (body : Action σ α) :
    Action.within coordinate value body =
      Action.framed [(coordinate.field, .text value)] body := by
  funext c
  have hfield (d : Coordinate) : d.field = coordinate.field ↔ d = coordinate := by
    cases d <;> cases coordinate <;> decide
  have hmerge : c.contexts.current.merge [(coordinate.field, .text value)] =
      .ok (c.contexts.current.withCoordinate coordinate value) := by
    let f : Frame := ⟨[(coordinate.field, .text value)], List.pairwise_singleton _ _,
      by cases coordinate <;> exact List.nodup_nil⟩
    have hextra : f.extra = [] := by cases coordinate <;> rfl
    rw [Context.merge_of_accepted (f := f) _ (by cases coordinate <;> rfl), Context.under,
      Context.withCoordinate, hextra]
    congr 2
    funext d
    by_cases h : d = coordinate
    · simp [f, Entries.get?, h]
    · have hne : (d.field == coordinate.field) = false :=
        beq_false_of_ne fun hd => h ((hfield d).1 hd)
      simp [f, Entries.get?, List.lookup_cons, h, hne]
  rw [Action.within, Action.framed, Stack.push, hmerge]
  rfl

/-! ### Contexts and blocks -/

section Runs

variable [DecidableEq θ]

lemma run_append (steps more : List (Step θ)) :
    Stacks.start.run (steps ++ more) = (Stacks.start.run steps).run more := List.foldl_append

/-- The stack of a thread is that of the blocks that it has open. -/
lemma run_start (steps : List (Step θ)) (thread : θ) :
    Stacks.start.run steps thread = stackOf (openFrames thread steps) := by
  rw [Stacks.run_apply]
  exact foldl_after_stackOf _ []

lemma openFrames_append (thread : θ) (steps more : List (Step θ)) :
    openFrames thread (steps ++ more) =
      (ownSteps thread more).foldl framesAfter (openFrames thread steps) := by
  rw [openFrames, ownSteps, List.filter_append, List.foldl_append]
  rfl

/-- **Contexts are nested as blocks are.**  Whatever has happened on the threads, the context at
hand on one of them comes of laying the frames of its open blocks over each other, from the
outermost to the innermost: a coordinate is that of the innermost frame that passes it, null if this
is what it passes, and an extra is that of the innermost frame that has it.  A block that is left,
by an error or not, leaves the stack as it was entered; a frame that is refused changes nothing; no
thread sees what others do; and two blocks inside each other are one with both their frames.  Work
is told in the contexts of its places, and however it ends, the contexts are as they were. -/
theorem contexts_nest (steps : List (Step θ)) (thread : θ) :
    ((openFrames thread steps).reverse.map Frame.entries).foldlM Context.merge Context.empty =
        .ok ((Stacks.start.run steps).current thread) ∧
      (∀ c : Coordinate, ((Stacks.start.run steps).current thread).coordinate c =
        ((openFrames thread steps).findSome? (·.entries.get? c.field)).getD .null) ∧
      (∀ key, ((Stacks.start.run steps).current thread).extra.get? key =
        (openFrames thread steps).findSome? (·.extra.get? key)) ∧
      (∀ f : Frame, ∀ body : List (Step θ), ∀ raised, f.accepted = true →
        Nested (ownSteps thread body) →
          Stacks.start.run (steps ++ .enter thread f :: (body ++ [.leave thread raised])) thread =
            Stacks.start.run steps thread) ∧
      (∀ f : Frame, f.accepted = false →
        (∃ fault, (Stacks.start.run steps).enter thread f.entries = .error fault) ∧
          Stacks.start.run (steps ++ [.enter thread f]) = Stacks.start.run steps) ∧
      Stacks.start.run steps thread = Stacks.start.run (ownSteps thread steps) thread ∧
      (∀ f g : Frame, f.accepted = true → g.accepted = true →
        (f.combine g).accepted = true ∧
          (Stacks.start.run (steps ++ [.enter thread f, .enter thread g])).current thread =
            (Stacks.start.run (steps ++ [.enter thread (f.combine g)])).current thread) ∧
      ∀ (σ : Type) (work : Work) (c : Course σ),
        work.action c = ((work.told c.contexts.current).1,
          { c with lines := (work.told c.contexts.current).2.reverse ++ c.lines }) := by
  have hframes : ∀ f ∈ openFrames thread steps, f.accepted = true :=
    accepted_of_mem_frames (List.forall_mem_nil _)
  have hcurrent (steps : List (Step θ)) :
      (Stacks.start.run steps).current thread = Context.laid (openFrames thread steps) := by
    rw [Stacks.current, run_start, current_stackOf]
  refine ⟨?_, fun c => ?_, fun key => ?_, fun f body raised hf hbody => ?_, fun f hf => ?_, ?_,
    fun f g hf hg => ⟨Frame.accepted_combine hf hg, ?_⟩, fun σ work c => work.action_apply c⟩
  · rw [Context.foldlM_merge hframes, hcurrent]
  · rw [hcurrent, Context.coordinate_laid]
  · rw [hcurrent, Context.extra_laid]
  · rw [run_append, Stacks.run_block _ _ hf hbody]
  · obtain ⟨fault, hfault⟩ := Stack.push_of_refused hf
    have henter : (Stacks.start.run steps).enter thread f.entries = .error fault := by
      rw [Stacks.enter, hfault]
      rfl
    refine ⟨⟨fault, henter⟩, ?_⟩
    rw [run_append, Stacks.run, List.foldl_cons, List.foldl_nil, Stacks.after, henter]
  · rw [Stacks.run_apply, Stacks.run_apply, ownSteps_ownSteps]
  · have hown (frame : Frame) :
        ownSteps thread [Step.enter thread frame] = [.enter thread frame] := by
      simp [ownSteps, Step.thread]
    have hboth : ownSteps thread [Step.enter thread f, .enter thread g] =
        [.enter thread f, .enter thread g] := by simp [ownSteps, Step.thread]
    rw [hcurrent, hcurrent, openFrames_append, openFrames_append, hown, hboth]
    simp only [List.foldl_cons, List.foldl_nil, framesAfter, hf, hg, Frame.accepted_combine hf hg,
      if_true]
    exact Context.under_combine _

end Runs

/-- A block on one thread, in it a second one that clears what the first one set, and between the
two a block on another thread that an error ends. -/
def crossing : List (Step Bool) :=
  let outer : Frame := ⟨[("database", .text "app"), ("extra", .object [("a", .int 1)])], by decide,
    by decide⟩
  let other : Frame := ⟨[("table", .text "users")], by decide, by decide⟩
  let inner : Frame := ⟨[("extra", .object [("b", .int 2)]), ("database", .null)], by decide,
    by decide⟩
  [.enter true outer, .enter false other, .enter true inner,
    .leave false (some (.raised "ValueError" (.text "no")))]

theorem contexts_nest_crossing :
    ((Stacks.start.run crossing).current true).coordinate .database = .null ∧
      ((Stacks.start.run crossing).current true).extra.get? "a" = some (.int 1) ∧
      Stacks.start.run crossing false = [] := by
  obtain ⟨-, hcoordinate, hextra, -⟩ := contexts_nest crossing true
  obtain ⟨-, -, -, -, -, halone, -⟩ := contexts_nest crossing false
  exact ⟨hcoordinate .database, hextra "a", halone⟩

end PgSchema.Log
