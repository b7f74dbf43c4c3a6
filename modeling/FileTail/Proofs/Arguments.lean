import FileTail.CommandLine.Program

/-!
# FileTail.Proofs.Arguments

A flag for which every text is a value, written before all other arguments. It sets its value and
nothing else: the other options are what they are without it, and so is what is wrong with the rest
of the arguments or with the environment.

* `Scan.Beside`: two outcomes of a scan that differ in the value of one flag, or the same fault. Each
  part of the scan keeps that.
* `Grammar.scan_put`, `Grammar.complete_put`: all arguments, and the environment.
* `Invocation.ofArguments_delimiter`: the delimiter that is given is the one that is used.
-/

namespace FileTail

/-- Every text is a value of the flag. -/
def Flag.TakesAll (f : Flag) : Prop := ∀ text, ∃ x, f.read text = .ok x

theorem Flag.delimiter_takesAll : Flag.delimiter.TakesAll := fun text => ⟨text, rfl⟩

namespace Values

theorem put_put_same (v : Values) (f : Flag) (x y : f.Carrier) :
    (v.put f x).put f y = v.put f y := by
  simp only [put, Values.mk.injEq]
  funext g
  split <;> rfl

theorem put_put_other (v : Values) {f g : Flag} (x : f.Carrier) (y : g.Carrier) (h : f ≠ g) :
    (v.put f x).put g y = (v.put g y).put f x := by
  simp only [put, Values.mk.injEq]
  funext k
  by_cases hf : f = k
  · subst hf
    simp [h.symm]
  · by_cases hg : g = k
    · subst hg
      simp [h]
    · simp [hf, hg]

/-- What is given for a flag does not depend on the value of another. -/
theorem give_put (v : Values) {d f : Flag} (x : d.Carrier) (h : d ≠ f) (text : String) :
    (v.put d x).give f text = (v.give f text).map (·.put d x) := by
  have hget : (v.put d x).get? f = v.get? f := v.get?_put_other x h
  unfold give
  rw [has, has, hget]
  split
  · rfl
  · cases f.read text with
    | error fault => rfl
    | ok y =>
      simp only [Except.map, add, hget]
      rw [put_put_other v x _ h]

end Values

/-! ## Arguments -/

namespace Scan

/-- The same scan with a value put in. -/
def put (s : Scan) (d : Flag) (x : d.Carrier) : Scan := { s with values := s.values.put d x }

/-- Nothing is kept back for the flag. -/
def Free (d : Flag) (s : Scan) : Prop := ∀ e ∈ s.kept, d ≠ e.1

inductive Beside (d : Flag) (x : d.Carrier) : Except Halt Scan → Except Halt Scan → Prop where
  | halt (h : Halt) : Beside d x (.error h) (.error h)
  | ok {s : Scan} : s.Free d → Beside d x (.ok s) (.ok (s.put d x))

variable {d : Flag} {x : d.Carrier} {s : Scan}

namespace Beside

theorem bind {a b : Except Halt Scan} (h : Beside d x a b) {k : Scan → Except Halt Scan}
    (hk : ∀ s, s.Free d → Beside d x (k s) (k (s.put d x))) :
    Beside d x (a.bind k) (b.bind k) := by
  cases h with
  | halt h => exact .halt h
  | ok hs => exact hk _ hs

theorem map {a b : Except Halt Scan} (h : Beside d x a b) {k : Scan → Scan}
    (hk : ∀ s, s.Free d → (k s).Free d ∧ k (s.put d x) = (k s).put d x) :
    Beside d x (a.map k) (b.map k) := by
  cases h with
  | halt h => exact .halt h
  | ok hs =>
    obtain ⟨hfree, hput⟩ := hk _ hs
    simp only [Except.map, hput]
    exact .ok hfree

end Beside

theorem give_beside (s : Scan) (x : d.Carrier) {f : Flag} (h : d ≠ f) (text : String) :
    Beside d x (s.give f text) ((s.put d x).give f text) := by
  simp only [give, put, Values.give_put s.values x h text]
  cases s.values.give f text with
  | error fault => exact .halt _
  | ok values => exact .ok (by rintro e ⟨⟩)

theorem resolve_beside (h : s.Free d) (x : d.Carrier) :
    Beside d x s.resolve (s.put d x).resolve := by
  obtain ⟨values, kept, trailing⟩ := s
  rcases kept with _ | ⟨f, _ | text⟩
  · exact .ok h
  · exact .halt _
  · exact give_beside _ x (h (f, some text) rfl) text

theorem settled_put (h : s.Free d) (x : d.Carrier) :
    (s.put d x).settled = s.settled.map (·.put d x) := by
  have hresolve := resolve_beside h x
  unfold settled
  generalize s.resolve = a, (s.put d x).resolve = b at hresolve
  cases hresolve with
  | halt h => rfl
  | ok hs => rfl

theorem stopFor_beside (h : s.Free d) (x : d.Carrier) (halt : Halt) :
    Beside d x (s.stopFor halt) ((s.put d x).stopFor halt) := by
  have hresolve := resolve_beside h x
  unfold stopFor
  generalize s.resolve = a, (s.put d x).resolve = b at hresolve
  cases hresolve with
  | halt h => exact .halt h
  | ok hs => exact .halt halt

theorem onFlag_beside (h : s.Free d) (x : d.Carrier) {f : Flag} (hf : d ≠ f)
    (value : Option String) : Beside d x (s.onFlag f value) ((s.put d x).onFlag f value) := by
  have hresolve := resolve_beside h x
  have hgive := fun text => hresolve.bind fun s _ => give_beside s x hf text
  unfold onFlag
  split
  · exact .halt _
  · exact hgive _
  · exact hgive _
  · exact hresolve.map fun s _ => ⟨by rintro e ⟨⟩; exact hf, rfl⟩

end Scan

/-- Whether an argument is the flag, with a value or without. -/
def Shape.IsFlag (d : Flag) (arg : String) : Prop := ∃ value, ofArgument arg = .long d.name value

namespace Grammar

open Scan

variable {d : Flag} {s : Scan}

theorem onLetters_beside (g : Grammar) (h : s.Free d) (x : d.Carrier) (letters : List Char) :
    Beside d x (g.onLetters s letters) (g.onLetters (s.put d x) letters) := by
  unfold onLetters
  split
  · exact stopFor_beside h x _
  · split
    · exact stopFor_beside h x _
    · exact .halt _
  · exact .halt _

theorem onLong_beside (g : Grammar) (h : s.Free d) (x : d.Carrier) {name : String}
    (hname : name ≠ d.name) (value : Option String) :
    Beside d x (g.onLong s name value) (g.onLong (s.put d x) name value) := by
  unfold onLong
  split
  · rename_i f hfound
    have hf : f.name = name := by simpa using List.find?_some hfound
    exact onFlag_beside h x (fun hd => hname (by rw [hd, hf])) value
  · dsimp only
    split
    · exact .halt _
    · exact .halt _
    · exact stopFor_beside h x _

theorem onArgument_beside (g : Grammar) (h : s.Free d) (x : d.Carrier) {arg : String}
    (harg : ¬ Shape.IsFlag d arg) :
    Beside d x (g.onArgument s arg) (g.onArgument (s.put d x) arg) := by
  obtain ⟨values, kept, trailing⟩ := s
  unfold onArgument
  cases trailing with
  | true => exact .halt _
  | false =>
    simp only [put, Bool.false_eq_true, if_false]
    split
    · exact .ok h
    · rename_i name value hshape
      exact onLong_beside g h x (fun hname => harg ⟨value, hname ▸ hshape⟩) value
    · exact onLetters_beside g h x _
    · split
      · -- the value of the flag that is kept back
        refine .ok fun e he => ?_
        cases he
        exact h (_, none) rfl
      · exact .halt _

/-- Arguments among which the flag is not are scanned with a value of it as they are without. -/
theorem scan_put (g : Grammar) (h : s.Free d) (x : d.Carrier) {args : List String}
    (hargs : ∀ arg ∈ args, ¬ Shape.IsFlag d arg) :
    (∃ halt, g.scan s args = .error halt ∧ g.scan (s.put d x) args = .error halt) ∨
      ∃ s' call?, s'.Free d ∧ g.scan s args = .ok (s', call?) ∧
        g.scan (s.put d x) args = .ok (s'.put d x, call?) := by
  induction args generalizing s with
  | nil => exact .inr ⟨s, none, h, rfl, rfl⟩
  | cons arg args ih =>
    have hstep := g.onArgument_beside h x (hargs arg List.mem_cons_self)
    have hcommand : g.isCommand (s.put d x) arg = g.isCommand s arg := rfl
    simp only [scan, hcommand]
    split
    · exact .inr ⟨s, _, h, rfl, rfl⟩
    · generalize g.onArgument s arg = a, g.onArgument (s.put d x) arg = b at hstep
      cases hstep with
      | halt halt => exact .inl ⟨halt, rfl, rfl⟩
      | ok hs => exact ih hs fun a ha => hargs a (List.mem_cons_of_mem _ ha)

/-! ## The environment -/

/-- Take the value of one flag from the environment, unless it was given. -/
def completeOne (env : String → Option String) (v : Values) (f : Flag) : Except Halt Values :=
  if v.has f then .ok v
  else
    match env f.envName with
    | none => .ok v
    | some text =>
      match v.give f text with
      | .ok v => .ok v
      | .error e => .error (.fault e)

theorem complete_eq (g : Grammar) (env : String → Option String) (v : Values) :
    g.complete env v = g.flags.foldlM (completeOne env) v := rfl

theorem completeOne_put (env : String → Option String) (v : Values) (hd : d.TakesAll)
    (x : d.Carrier) (f : Flag) :
    completeOne env (v.put d x) f = (completeOne env v f).map (·.put d x) := by
  unfold completeOne
  by_cases hf : d = f
  · subst hf
    have hput : (v.put d x).has d = true := by rw [Values.has, Values.get?_put_same]; rfl
    rw [if_pos hput]
    by_cases hhas : v.has d
    · rw [if_pos hhas]
      rfl
    · rw [if_neg hhas]
      cases env d.envName with
      | none => rfl
      | some text =>
        obtain ⟨y, hy⟩ := hd text
        have hfalse : v.has d = false := by simpa using hhas
        -- the value from the environment is overwritten
        simp only [Values.give, hfalse, Bool.false_and, Bool.false_eq_true, if_false, hy,
          Except.map, Values.add, Values.put_put_same]
  · have hhas : (v.put d x).has f = v.has f := by rw [Values.has, Values.has, v.get?_put_other x hf]
    rw [hhas]
    split
    · rfl
    · cases env f.envName with
      | none => rfl
      | some text =>
        dsimp only
        rw [Values.give_put v x hf]
        cases v.give f text with
        | error fault => rfl
        | ok v => rfl

/-- The environment stands in for the other flags as it does without a value of the flag. -/
theorem complete_put (g : Grammar) (env : String → Option String) (v : Values) (hd : d.TakesAll)
    (x : d.Carrier) : g.complete env (v.put d x) = (g.complete env v).map (·.put d x) := by
  rw [complete_eq, complete_eq]
  induction g.flags generalizing v with
  | nil => rfl
  | cons f flags ih =>
    rw [List.foldlM_cons, List.foldlM_cons, completeOne_put env v hd]
    cases completeOne env v f with
    | error halt => rfl
    | ok v => exact ih v

end Grammar

/-! ## The delimiter -/

/-- The same options with another delimiter. -/
def RunOptions.withDelimiter (o : RunOptions) (s : String) : RunOptions :=
  { o with settings := { o.settings with delimiter := s } }

/-- The same invocation with another delimiter, where files are to be followed. -/
def Invocation.withDelimiter (i : Invocation) (s : String) : Invocation :=
  match i.command with
  | .start o => { i with command := .start (o.withDelimiter s) }
  | .version => i

namespace RunOptions

theorem ofValues_put (v : Values) (raw : String) :
    ofValues (v.put .delimiter raw) = (ofValues v).withDelimiter (Escape.expand raw) := by
  simp only [ofValues, withDelimiter, Values.get?_put_same, Option.map_some, Option.getD_some]
  rfl

theorem ofValues?_put (v : Values) (raw : String) :
    ofValues? (v.put .delimiter raw) =
      (ofValues? v).map (·.withDelimiter (Escape.expand raw)) := by
  have hhas : (v.put .delimiter raw).has .tailPaths = v.has .tailPaths := rfl
  unfold ofValues?
  rw [hhas]
  split
  · rw [ofValues_put]
    rfl
  · rfl

end RunOptions

theorem Shape.ofArgument_delimiter (raw : String) :
    ofArgument ("--tail-delimiter=" ++ raw) = .long Flag.delimiter.name (some raw) := by
  simp [ofArgument, ofLong, Flag.name]

namespace Invocation

theorem scan_delimiter (raw : String) (args : List String) :
    startGrammar.scan .fresh (("--tail-delimiter=" ++ raw) :: args) =
      startGrammar.scan (Scan.put .fresh .delimiter raw) args := by
  have hcommand : startGrammar.isCommand .fresh ("--tail-delimiter=" ++ raw) = false := rfl
  have hargument : startGrammar.onArgument .fresh ("--tail-delimiter=" ++ raw) =
      .ok (Scan.put .fresh .delimiter raw) := by
    simp only [Grammar.onArgument, Shape.ofArgument_delimiter]
    rfl
  simp only [Grammar.scan, hcommand, hargument]
  rfl

theorem onCommand_delimiter (raw : String) {args : List String}
    (hargs : ∀ arg ∈ args, ¬ Shape.IsFlag .delimiter arg) (env : Environment) :
    onCommand startGrammar (("--tail-delimiter=" ++ raw) :: args) env =
      (onCommand startGrammar args env).map
        fun v => (v.1.put .delimiter raw, v.2.put .delimiter raw) := by
  have hfresh : Scan.fresh.Free .delimiter := by rintro e ⟨⟩
  rw [onCommand, scan_delimiter, onCommand]
  obtain ⟨halt, hscan, hput⟩ | ⟨s, call?, hs, hscan, hput⟩ :=
    startGrammar.scan_put hfresh (x := raw) hargs
  · rw [hscan, hput]
    rfl
  · rw [hscan, hput]
    simp only [bind, Except.bind, pure, Except.pure, Scan.settled_put hs]
    cases s.settled with
    | error halt => rfl
    | ok given =>
      simp only [Except.map, Grammar.complete_put startGrammar env given Flag.delimiter_takesAll]
      cases startGrammar.complete env given with
      | error halt => rfl
      | ok all => rfl

/-- A delimiter that is given is the one that is used, and it changes nothing else. -/
theorem ofArguments_delimiter (raw : String) {args : List String}
    (hargs : ∀ arg ∈ args, ¬ Shape.IsFlag .delimiter arg) (env : Environment) :
    ofArguments ("start" :: ("--tail-delimiter=" ++ raw) :: args) env =
      (ofArguments ("start" :: args) env).map (·.withDelimiter (Escape.expand raw)) := by
  have hstart : ∀ rest,
      grammar.scan .fresh ("start" :: rest) = .ok (.fresh, some ⟨"start", rest⟩) := fun _ => rfl
  simp only [ofArguments, hstart, bind, Except.bind]
  rw [onCommand_delimiter raw hargs]
  cases onCommand startGrammar args env with
  | error halt => rfl
  | ok v =>
    obtain ⟨given, all⟩ := v
    simp only [Except.map, RunOptions.ofValues?_put]
    cases RunOptions.ofValues? all with
    | error halt => rfl
    | ok options =>
      have hformat : (given.put .delimiter raw).get? .logFormat = given.get? .logFormat := rfl
      simp only [hformat]
      cases Scan.fresh.settled with
      | error halt => rfl
      | ok outer =>
        dsimp only
        cases grammar.complete env outer with
        | error halt => rfl
        | ok all => rfl

end Invocation
end FileTail
