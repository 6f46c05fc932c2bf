import HeapProbe.Command.Invocation

/-! # What a command line gives

The arguments carry options with texts, in order. Reading them comes to this: what an option gives
is read from the last text that it carries, and of the sources one is given and no other. A property
of what has been read holds of a whole command line if every option that is taken keeps it.
-/

namespace HeapProbe

def sharedOptions (option : CommandOption) (cs : List Char) : List CommandOption :=
  match ReadingState.sharedDash option cs with
  | .ok options => options
  | .error _ => []

/-- The options that arguments carry, in order, each with the text of its value. -/
def Argument.carried : List Argument → List (CommandOption × String)
  | [] => []
  | .value _ :: rest | .unknown _ :: rest | .dashes :: rest => carried rest
  | .option meant _ joined :: rest =>
    match meant.takesValue, joined with
    | true, some cs => (meant, String.ofList cs) :: carried rest
    | true, none =>
      match rest with
      | .value text :: later => (meant, text) :: carried later
      | _ => []
    | false, none => (meant, "") :: carried rest
    | false, some cs => (sharedOptions meant cs).map (·, "") ++ carried rest

def CommandOption.text? (option : CommandOption) (carried : List (CommandOption × String)) :
    Option String :=
  (carried.filterMap fun entry => if entry.1 = option then some entry.2 else none).getLast?

section Text

variable {option other : CommandOption} {carried : List (CommandOption × String)} {text : String}

@[simp] theorem text?_nil : option.text? [] = none := rfl

theorem text?_concat_self : option.text? (carried ++ [(option, text)]) = some text := by
  simp [CommandOption.text?]

theorem text?_concat_of_ne (h : other ≠ option) :
    other.text? (carried ++ [(option, text)]) = other.text? carried := by
  simp [CommandOption.text?, h.symm]

end Text

def ReadFrom {α : Type} (option : CommandOption) (kind : String) (read : String → Option α)
    (text? : Option String) (given : Given α) : Prop :=
  match text? with
  | none => given = .nothing
  | some text => ReadingState.readValue option kind read text = .ok given

/-- Two dashes leave a value blank, and any other text is read. -/
theorem ReadFrom.of_some {α : Type} {option : CommandOption} {kind : String}
    {read : String → Option α} {text : String} {given : Given α}
    (h : ReadFrom option kind read (some text) given) :
    text = "--" ∧ given = .blank ∨
      text ≠ "--" ∧ ∃ value, read text = some value ∧ given = .value value := by
  change ReadingState.readValue option kind read text = .ok given at h
  unfold ReadingState.readValue at h
  split at h
  · next hdashes => exact .inl ⟨hdashes, (Except.ok.inj h).symm⟩
  · next hdashes =>
    split at h
    · next value hread => exact .inr ⟨hdashes, value, hread, (Except.ok.inj h).symm⟩
    · cases h

/-- The invocation has of an option what is read from a text. Nothing comes of a call for help. -/
def Invocation.Has (invocation : Invocation) (text? : Option String) : CommandOption → Prop
  | .help => text? = none
  | .pid => ReadFrom .pid "int" readCount? text? invocation.pid
  | .name => ReadFrom .name "str" some text? invocation.name
  | .core => ReadFrom .core "str" some text? invocation.core
  | .executable => ReadFrom .executable "str" some text? invocation.executable
  | .heapAddress => ReadFrom .heapAddress "_address" readAddress? text? invocation.heapAddress
  | .config => ReadFrom .config "str" some text? invocation.config
  | .regions => invocation.regions = text?.isSome
  | .all => invocation.all = text?.isSome
  | .verbose => invocation.verbose = text?.isSome

theorem exists_of_bind_eq_ok {ε α β : Type} {first : Except ε α} {next : α → Except ε β} {b : β}
    (h : first >>= next = .ok b) : ∃ a, first = .ok a ∧ next a = .ok b := by
  cases first with
  | error _ => cases h
  | ok a => exact ⟨a, rfl, h⟩

namespace ReadingState

variable {invocation later : Invocation} {option other : CommandOption} {text : String}

theorem has_of_set (h : set invocation option text = .ok later) :
    later.Has (some text) option := by
  cases option
  case help => cases h
  case regions | all | verbose =>
    cases h
    rfl
  all_goals
    obtain ⟨given, hread, he⟩ := exists_of_bind_eq_ok h
    cases he
    exact hread

theorem has_iff_of_set (h : set invocation option text = .ok later) (hne : other ≠ option)
    (text? : Option String) : later.Has text? other ↔ invocation.Has text? other := by
  cases option
  case help => cases h
  case regions | all | verbose =>
    cases h
    cases other <;> first | exact absurd rfl hne | rfl
  all_goals
    obtain ⟨given, -, he⟩ := exists_of_bind_eq_ok h
    cases he
    cases other <;> first | exact absurd rfl hne | rfl

/-- What has been read is what the options carried so far give. -/
structure Reads (carried : List (CommandOption × String)) (state : ReadingState) : Prop where
  has : ∀ option, state.invocation.Has (option.text? carried) option
  given : ∀ option,
    option ∈ state.given ↔ option ∈ CommandOption.sources ∧ (option.text? carried).isSome
  alone : ∀ option ∈ state.given, ∀ other ∈ state.given, other = option

theorem reads_nothing : Reads [] {} where
  has option := by cases option <;> rfl
  given option := by simp
  alone := nofun

theorem Reads.addExtra {carried : List (CommandOption × String)} {state : ReadingState}
    (h : Reads carried state) (extra : String) : Reads carried (state.addExtra extra) :=
  ⟨h.has, h.given, h.alone⟩

theorem invocation_of_take {state taken : ReadingState} (h : state.take option text = .ok taken) :
    set state.invocation option text = .ok taken.invocation := by
  obtain ⟨invocation, hset, hnext⟩ := exists_of_bind_eq_ok h
  rw [hset]
  split at hnext
  · split at hnext
    · cases hnext
    · cases hnext
      rfl
  · cases hnext
    rfl

theorem given_of_take {state taken : ReadingState} (h : state.take option text = .ok taken) :
    (option ∈ CommandOption.sources ∧ taken.given = option :: state.given ∧
        ∀ other ∈ CommandOption.sources, other ∈ state.given → other = option) ∨
      (option ∉ CommandOption.sources ∧ taken.given = state.given) := by
  obtain ⟨invocation, -, hnext⟩ := exists_of_bind_eq_ok h
  split at hnext
  · next hsource =>
    split at hnext
    · cases hnext
    · next hnone =>
      cases hnext
      refine .inl ⟨hsource, rfl, fun other hother hgiven => ?_⟩
      have := List.find?_eq_none.1 hnone other hother
      simpa [hgiven] using this
  · next hsource =>
    cases hnext
    exact .inr ⟨hsource, rfl⟩

theorem Reads.take {carried : List (CommandOption × String)} {state taken : ReadingState}
    (h : Reads carried state) (ht : state.take option text = .ok taken) :
    Reads (carried ++ [(option, text)]) taken := by
  have hset := invocation_of_take ht
  have hsome (other : CommandOption) :
      (other.text? (carried ++ [(option, text)])).isSome ↔
        other = option ∨ (other.text? carried).isSome := by
    by_cases hother : other = option
    · rw [hother, text?_concat_self]
      simp
    · rw [text?_concat_of_ne hother]
      simp [hother]
  constructor
  case has =>
    intro other
    by_cases hother : other = option
    · rw [hother, text?_concat_self]
      exact has_of_set hset
    · rw [text?_concat_of_ne hother, has_iff_of_set hset hother]
      exact h.has other
  case given =>
    intro other
    rw [hsome]
    rcases given_of_take ht with ⟨hsource, hgiven, -⟩ | ⟨hsource, hgiven⟩
    · rw [hgiven, List.mem_cons, h.given]
      constructor
      · rintro (rfl | ⟨hother, htext⟩)
        · exact ⟨hsource, .inl rfl⟩
        · exact ⟨hother, .inr htext⟩
      · rintro ⟨hother, rfl | htext⟩
        · exact .inl rfl
        · exact .inr ⟨hother, htext⟩
    · rw [hgiven, h.given]
      constructor
      · rintro ⟨hother, htext⟩
        exact ⟨hother, .inr htext⟩
      · rintro ⟨hother, rfl | htext⟩
        · exact absurd hother hsource
        · exact ⟨hother, htext⟩
  case alone =>
    rcases given_of_take ht with ⟨hsource, hgiven, hothers⟩ | ⟨hsource, hgiven⟩
    · have hall : ∀ other ∈ taken.given, other = option := by
        rw [hgiven]
        rintro other (_ | ⟨_, hother⟩)
        · rfl
        · exact hothers other ((h.given other).1 hother).1 hother
      intro first hfirst second hsecond
      rw [hall first hfirst, hall second hsecond]
    · rw [hgiven]
      exact h.alone

section Run

variable {holds : List (CommandOption × String) → ReadingState → Prop}
  (hextra : ∀ carried state extra, holds carried state → holds carried (state.addExtra extra))
  (htake : ∀ carried state option text taken, holds carried state →
    state.take option text = .ok taken → holds (carried ++ [(option, text)]) taken)
include htake

theorem foldlM_take_keeps {options : List CommandOption} {carried : List (CommandOption × String)}
    {state taken : ReadingState} (h : holds carried state)
    (ht : options.foldlM (fun state option => state.take option "") state = .ok taken) :
    holds (carried ++ options.map (·, "")) taken := by
  induction options generalizing carried state with
  | nil =>
    cases ht
    simpa using h
  | cons option options ih =>
    rw [List.foldlM_cons] at ht
    obtain ⟨between, hfirst, hrest⟩ := exists_of_bind_eq_ok ht
    have := ih (htake _ _ _ _ _ h hfirst) hrest
    rwa [List.append_assoc] at this

include hextra

theorem takeAll_keeps {arguments : List Argument} {carried : List (CommandOption × String)}
    {state taken : ReadingState} (h : holds carried state)
    (ht : takeAll arguments state = .ok taken) :
    holds (carried ++ Argument.carried arguments) taken := by
  fun_induction takeAll arguments state generalizing carried with
  | case1 state =>
    cases ht
    simpa [Argument.carried] using h
  | case2 text rest state ih | case3 text rest state ih =>
    rw [Argument.carried]
    exact ih (hextra _ _ _ h) ht
  | case4 rest state ih =>
    rw [Argument.carried]
    exact ih (hextra _ _ _ h) ht
  -- The value is joined to the option.
  | case5 meant oneDash rest state cs hvalue ih =>
    obtain ⟨between, hfirst, hrest⟩ := exists_of_bind_eq_ok ht
    have := ih between (htake _ _ _ _ _ h hfirst) hrest
    simpa [Argument.carried, hvalue] using this
  -- The value follows the option.
  | case6 meant oneDash state hvalue text rest ih =>
    obtain ⟨between, hfirst, hrest⟩ := exists_of_bind_eq_ok ht
    have := ih between (htake _ _ _ _ _ h hfirst) hrest
    simpa [Argument.carried, hvalue] using this
  | case7 => cases ht
  | case8 meant oneDash rest state hvalue ih =>
    obtain ⟨between, hfirst, hrest⟩ := exists_of_bind_eq_ok ht
    have := ih between (htake _ _ _ _ _ h hfirst) hrest
    simpa [Argument.carried, hvalue] using this
  -- Options of one letter share a dash.
  | case9 meant rest state cs hvalue =>
    rename_i ih
    obtain ⟨options, hoptions, hnext⟩ := exists_of_bind_eq_ok ht
    obtain ⟨between, hshared, hrest⟩ := exists_of_bind_eq_ok hnext
    have := ih between (foldlM_take_keeps htake h hshared) hrest
    simpa [Argument.carried, hvalue, sharedOptions, hoptions] using this
  | case10 => cases ht

end Run

theorem reads_of_takeAll {arguments : List Argument} {state : ReadingState}
    (h : takeAll arguments {} = .ok state) : Reads (Argument.carried arguments) state :=
  takeAll_keeps (fun _ _ extra h => h.addExtra extra) (fun _ _ _ _ _ h ht => h.take ht)
    reads_nothing h

end ReadingState

/-- The command line makes sense up to whether a core file comes with its executable. It carries
these options, and is read as this invocation. -/
inductive Understood (arguments : List String) :
    List (CommandOption × String) → Invocation → Prop where
  | intro {told : List Argument} {state : ReadingState}
      (htold : Argument.ofTexts arguments = .ok told)
      (htaken : ReadingState.takeAll told {} = .ok state) (hgiven : state.given ≠ [])
      (hextras : state.extras = []) :
      Understood arguments (Argument.carried told) state.invocation

namespace Understood

variable {arguments : List String} {carried : List (CommandOption × String)}
  {invocation : Invocation}

theorem has (h : Understood arguments carried invocation) (option : CommandOption) :
    invocation.Has (option.text? carried) option := by
  cases h with
  | intro _ htaken _ _ => exact (ReadingState.reads_of_takeAll htaken).has option

theorem source (h : Understood arguments carried invocation) :
    ∃ source ∈ CommandOption.sources, ∀ option ∈ CommandOption.sources,
      (option.text? carried).isSome ↔ option = source := by
  cases h with
  | @intro told state _ htaken hgiven _ =>
    have hreads := ReadingState.reads_of_takeAll htaken
    obtain ⟨source, hsource⟩ := List.exists_mem_of_ne_nil _ hgiven
    have hmember := ((hreads.given source).1 hsource).1
    refine ⟨source, hmember, fun option hoption => ⟨fun htext => ?_, ?_⟩⟩
    · exact hreads.alone source hsource option ((hreads.given option).2 ⟨hoption, htext⟩)
    · rintro rfl
      exact ((hreads.given option).1 hsource).2

theorem ofArguments_eq (h : Understood arguments carried invocation) :
    Invocation.ofArguments arguments =
      if (Invocation.nonEmpty invocation.core).isSome &&
          (Invocation.nonEmpty invocation.executable).isNone then
        .error (.misuse "--core requires --executable")
      else .ok invocation := by
  cases h with
  | intro htold htaken hgiven hextras =>
    simp only [Invocation.ofArguments, htold, htaken, bind, Except.bind, pure, Except.pure, throw,
      throwThe, MonadExceptOf.throw, List.isEmpty_iff, hgiven, hextras, if_true, if_false]

/-- Every command line that is accepted is understood, so what is said of those is said of all. -/
theorem of_ofArguments (h : Invocation.ofArguments arguments = .ok invocation) :
    ∃ carried, Understood arguments carried invocation := by
  obtain ⟨told, htold, hrest⟩ := exists_of_bind_eq_ok h
  obtain ⟨state, htaken, hrest⟩ := exists_of_bind_eq_ok hrest
  by_cases hgiven : state.given = []
  · simp [hgiven, bind, Except.bind, throw, throwThe, MonadExceptOf.throw] at hrest
  by_cases hextras : state.extras = []
  · have hunderstood := Understood.intro htold htaken hgiven hextras
    rw [hunderstood.ofArguments_eq] at h
    split at h
    · cases h
    · cases h
      exact ⟨_, hunderstood⟩
  · simp [hgiven, hextras, bind, Except.bind, throw, throwThe, MonadExceptOf.throw] at hrest

end Understood

end HeapProbe
