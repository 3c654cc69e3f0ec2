import RegisterMachine.Settings

/-!
# Proofs — Command — Flags

How a server reads what it is told.  Its arguments are an address and then flags with their values,
in pairs.  They are settings exactly if the address is one and every pair is a flag with a value
that can be read (`Settings.Given`); what is wrong otherwise is the first thing wrong from the left
(`Settings.Refused`, `arguments_read_exactly`).

Of a flag that is given twice the last one counts, and a flag counts for more than the environment;
but the environment is read all the same, and a value there that is no number refuses arguments that
would have overridden it (`flags_override_environment`, `environment_refuses_flag`).
-/

namespace RegisterMachine

theorem Flag.ofName?_eq_some_iff {s : String} {f : Flag} : ofName? s = some f ↔ s = f.name := by
  constructor
  · intro h
    have := List.find?_some h
    exact (eq_of_beq this).symm
  · rintro rfl
    cases f <;> decide

theorem Flag.ofName?_eq_none_iff {s : String} : ofName? s = none ↔ ∀ f : Flag, s ≠ f.name := by
  rw [Option.eq_none_iff_forall_ne_some]
  exact forall_congr' fun f => not_congr Flag.ofName?_eq_some_iff

namespace Settings

/-- The number of bytes that a value stands for. -/
def size? (value : String) : Option Nat :=
  Text.unsigned? Text.uint64Max value.toList

/-- The level that a value stands for. -/
def level? (value : String) : Option Level :=
  (Level.read value).toOption

/-- A flag that is given with a value that can be read. -/
inductive Given where
  | maxProgram (value : String) (n : Nat) (h : Settings.size? value = some n)
  | level (value : String) (l : Level) (h : Settings.level? value = some l)

namespace Given

/-- The two arguments of a flag with its value. -/
def arguments : Given → List String
  | maxProgram value _ _ => [Flag.maxProgram.name, value]
  | level value _ _      => [Flag.level.name, value]

/-- The length of programs that is given. -/
def maxProgram? : Given → Option Nat
  | maxProgram _ n _ => some n
  | level ..         => none

/-- The level that is given. -/
def level? : Given → Option Level
  | maxProgram .. => none
  | level _ l _   => some l

end Given

/-- What is wrong with arguments from the first of them on, where a flag should stand. -/
inductive Problem : List String → SettingsError → Prop where
  | unexpected {argument : String} {rest : List String} (h : ∀ f : Flag, argument ≠ f.name) :
      Problem (argument :: rest) (.unexpectedArgument argument)
  | missing (f : Flag) : Problem [f.name] (.missingValue f.name)
  | noSize {value : String} {rest : List String} (h : size? value = none) :
      Problem (Flag.maxProgram.name :: value :: rest) (.invalidValue Flag.maxProgram.name value)
  | noLevel {value : String} {rest : List String} (h : level? value = none) :
      Problem (Flag.level.name :: value :: rest) (.invalidValue Flag.level.name value)

/-- Why arguments are refused: there is no address, or the first argument is none, or there is
something wrong where the flags that can be read end. -/
inductive Refused : List String → SettingsError → Prop where
  | missingAddress : Refused [] .missingAddress
  | invalidAddress {address : String} {rest : List String}
      (h : SocketAddress.read? address = none) :
      Refused (address :: rest) (.invalidAddress address)
  | flags {address : String} {listen : SocketAddress} {rest : List String} {e : SettingsError}
      (h : SocketAddress.read? address = some listen) (givens : List Given)
      (hrest : Problem rest e) :
      Refused (address :: (givens.flatMap Given.arguments ++ rest)) e

/-- The number that the environment holds, if it holds one. -/
def environmentSize? (environment : String → Option String) : Option Nat :=
  (environment maxProgramVariable).bind size?

/-- The environment has no value, or one that can be read. -/
def Readable (environment : String → Option String) : Prop :=
  ∀ value, environment maxProgramVariable = some value → ∃ n, size? value = some n

/-- The settings that flags ask for: of each the last one given, and where there is none what the
environment says, and then the usual. -/
def asked (listen : SocketAddress) (environment : String → Option String) (givens : List Given) :
    Settings where
  listen
  maxProgram :=
    ((givens.filterMap Given.maxProgram?).getLast?.or (environmentSize? environment)).getD
      (1024 * 1024)
  level := (givens.filterMap Given.level?).getLast?

/-! ### One value -/

section Value

variable {value : String}

theorem readSize_of_some {n : Nat} (h : size? value = some n) (flag : String) :
    readSize flag value = .ok n := by
  rw [size?] at h
  rw [readSize, h]

theorem readSize_of_none (h : size? value = none) (flag : String) :
    readSize flag value = .error (.invalidValue flag value) := by
  rw [size?] at h
  rw [readSize, h]

theorem withFlag_level_of_some {l : Level} (h : level? value = some l) (s : Settings) :
    s.withFlag .level value = .ok { s with level := some l } := by
  rw [level?] at h
  rw [withFlag]
  cases hread : Level.read value with
  | ok l' =>
      rw [hread] at h
      obtain rfl := Option.some.inj h
      rfl
  | error e =>
      rw [hread] at h
      cases h

theorem withFlag_level_of_none (h : level? value = none) (s : Settings) :
    s.withFlag .level value = .error (.invalidValue Flag.level.name value) := by
  rw [level?] at h
  rw [withFlag]
  cases hread : Level.read value with
  | ok l =>
      rw [hread] at h
      cases h
  | error e => rfl

end Value

/-! ### Flags, one after the other -/

/-- The settings after a flag. -/
def give (s : Settings) : Given → Settings
  | .maxProgram _ n _ => { s with maxProgram := n }
  | .level _ l _      => { s with level := some l }

variable {s : Settings} {arguments rest : List String} {e : SettingsError}

theorem withFlags_cons_cons (s : Settings) (f : Flag) (value : String) (rest : List String) :
    s.withFlags (f.name :: value :: rest) =
      (s.withFlag f value).bind fun s => s.withFlags rest := by
  rw [withFlags, Flag.ofName?_eq_some_iff.mpr rfl]
  dsimp only
  cases s.withFlag f value <;> rfl

theorem withFlags_given (s : Settings) (g : Given) (rest : List String) :
    s.withFlags (g.arguments ++ rest) = (s.give g).withFlags rest := by
  cases g with
  | maxProgram value n h =>
      refine (s.withFlags_cons_cons .maxProgram value rest).trans ?_
      rw [withFlag, readSize_of_some h]
      rfl
  | level value l h =>
      refine (s.withFlags_cons_cons .level value rest).trans ?_
      rw [withFlag_level_of_some h]
      rfl

theorem withFlags_problem (s : Settings) (h : Problem arguments e) :
    s.withFlags arguments = .error e := by
  cases h with
  | @unexpected argument rest h =>
      have hnone := Flag.ofName?_eq_none_iff.mpr h
      cases rest with
      | nil => rw [withFlags, hnone]
      | cons value rest => rw [withFlags, hnone]
  | missing f => rw [withFlags, Flag.ofName?_eq_some_iff.mpr rfl]
  | noSize h =>
      rw [withFlags_cons_cons, withFlag, readSize_of_none h]
      rfl
  | noLevel h =>
      rw [withFlags_cons_cons, withFlag_level_of_none h]
      rfl

/-- Arguments are none, or begin with a flag that can be read, or there is something wrong. -/
theorem arguments_cases (arguments : List String) :
    arguments = [] ∨ (∃ g : Given, ∃ rest, arguments = g.arguments ++ rest) ∨
      ∃ e, Problem arguments e := by
  cases arguments with
  | nil => exact .inl rfl
  | cons argument rest =>
      refine .inr ?_
      cases hflag : Flag.ofName? argument with
      | none => exact .inr ⟨_, .unexpected (Flag.ofName?_eq_none_iff.mp hflag)⟩
      | some f =>
          obtain rfl := Flag.ofName?_eq_some_iff.mp hflag
          cases rest with
          | nil => exact .inr ⟨_, .missing f⟩
          | cons value rest =>
              cases f with
              | maxProgram =>
                  cases hvalue : size? value with
                  | none => exact .inr ⟨_, .noSize hvalue⟩
                  | some n => exact .inl ⟨.maxProgram value n hvalue, rest, rfl⟩
              | level =>
                  cases hvalue : level? value with
                  | none => exact .inr ⟨_, .noLevel hvalue⟩
                  | some l => exact .inl ⟨.level value l hvalue, rest, rfl⟩

theorem length_lt_arguments_append (g : Given) (rest : List String) :
    rest.length < (g.arguments ++ rest).length := by
  have harguments : g.arguments.length = 2 := by cases g <;> rfl
  rw [List.length_append, harguments]
  omega

/-- **Arguments begin with flags that can be read**, as many as there are; they end there, or
there is something wrong. -/
theorem exists_givens (arguments : List String) :
    ∃ (givens : List Given) (rest : List String),
      arguments = givens.flatMap Given.arguments ++ rest ∧ (rest = [] ∨ ∃ e, Problem rest e) := by
  rcases arguments_cases arguments with rfl | ⟨g, rest, rfl⟩ | h
  · exact ⟨[], [], rfl, .inl rfl⟩
  · have := length_lt_arguments_append g rest
    obtain ⟨givens, rest, rfl, h⟩ := exists_givens rest
    exact ⟨g :: givens, rest, by rw [List.flatMap_cons, List.append_assoc], h⟩
  · exact ⟨[], arguments, rfl, .inr h⟩
termination_by arguments.length

theorem withFlags_givens (s : Settings) (givens : List Given) (rest : List String) :
    s.withFlags (givens.flatMap Given.arguments ++ rest) =
      (givens.foldl give s).withFlags rest := by
  induction givens generalizing s with
  | nil => rfl
  | cons g givens ih =>
      rw [List.flatMap_cons, List.append_assoc, withFlags_given, ih, List.foldl_cons]

/-- **The last one counts.** -/
theorem foldl_give (s : Settings) (givens : List Given) :
    givens.foldl give s =
      { s with
        maxProgram := (givens.filterMap Given.maxProgram?).getLast?.getD s.maxProgram
        level := (givens.filterMap Given.level?).getLast?.or s.level } := by
  induction givens generalizing s with
  | nil => rfl
  | cons g givens ih =>
      rw [List.foldl_cons, ih]
      cases g with
      | maxProgram value n h =>
          simp only [give, List.filterMap_cons, Given.maxProgram?, Given.level?,
            List.getLast?_cons, Option.getD_some]
      | level value l h =>
          simp only [give, List.filterMap_cons, Given.maxProgram?, Given.level?,
            List.getLast?_cons, Option.some_or]
          cases (givens.filterMap Given.level?).getLast? <;> rfl

/-! ### The environment -/

variable {environment : String → Option String} {address value : String} {listen : SocketAddress}

theorem readable_of_none (h : environment maxProgramVariable = none) : Readable environment := by
  intro value hvalue
  rw [h] at hvalue
  cases hvalue

theorem readable_of_some {n : Nat} (hvalue : environment maxProgramVariable = some value)
    (h : size? value = some n) : Readable environment := by
  intro value' hvalue'
  rw [hvalue] at hvalue'
  obtain rfl := Option.some.inj hvalue'
  exact ⟨n, h⟩

theorem withEnvironment_of_readable (s : Settings) (h : Readable environment) :
    s.withEnvironment environment =
      .ok { s with maxProgram := (environmentSize? environment).getD s.maxProgram } := by
  rw [withEnvironment, environmentSize?]
  cases hvalue : environment maxProgramVariable with
  | none => rfl
  | some value =>
      obtain ⟨n, hn⟩ := h value hvalue
      rw [Option.bind_some, hn]
      dsimp only
      rw [readSize_of_some hn]
      rfl

theorem withEnvironment_of_unreadable (s : Settings)
    (hvalue : environment maxProgramVariable = some value) (h : size? value = none) :
    s.withEnvironment environment = .error (.invalidValue maxProgramVariable value) := by
  rw [withEnvironment, hvalue]
  dsimp only
  rw [readSize_of_none h]
  rfl

theorem read_cons_of_none (haddress : SocketAddress.read? address = none) (rest : List String)
    (environment : String → Option String) :
    read (address :: rest) environment = .error (.invalidAddress address) := by
  unfold read
  dsimp only
  rw [haddress]

theorem read_cons_of_some (haddress : SocketAddress.read? address = some listen)
    (rest : List String) (environment : String → Option String) :
    read (address :: rest) environment =
      (withEnvironment { listen } environment).bind fun s => s.withFlags rest := by
  unfold read
  dsimp only
  rw [haddress]
  rfl

theorem read_of_readable (h : Readable environment)
    (haddress : SocketAddress.read? address = some listen) (givens : List Given)
    (rest : List String) :
    read (address :: (givens.flatMap Given.arguments ++ rest)) environment =
      (asked listen environment givens).withFlags rest := by
  have hasked : givens.foldl give
      { listen, maxProgram := (environmentSize? environment).getD (1024 * 1024) } =
        asked listen environment givens := by
    rw [foldl_give, asked, Option.or_none, Option.getD_or]
  rw [read_cons_of_some haddress, withEnvironment_of_readable _ h]
  show Settings.withFlags _ _ = _
  rw [withFlags_givens, hasked]

theorem read_of_unreadable (haddress : SocketAddress.read? address = some listen)
    (hvalue : environment maxProgramVariable = some value) (h : size? value = none)
    (rest : List String) :
    read (address :: rest) environment = .error (.invalidValue maxProgramVariable value) := by
  rw [read_cons_of_some haddress, withEnvironment_of_unreadable _ hvalue h]
  rfl

/-- **Flags that can be read are settings.** -/
theorem read_of_givens (h : Readable environment)
    (haddress : SocketAddress.read? address = some listen) (givens : List Given) :
    read (address :: givens.flatMap Given.arguments) environment =
      .ok (asked listen environment givens) := by
  have hread := read_of_readable h haddress givens []
  rwa [List.append_nil, withFlags] at hread

/-- **The first thing that is wrong is reported.** -/
theorem read_of_refused (h : Readable environment) (hrefused : Refused arguments e) :
    read arguments environment = .error e := by
  cases hrefused with
  | missingAddress => rfl
  | invalidAddress haddress => exact read_cons_of_none haddress _ environment
  | flags haddress givens hrest =>
      rw [read_of_readable h haddress, withFlags_problem _ hrest]

theorem accepted_or_refused (arguments : List String) :
    (∃ address listen givens, SocketAddress.read? address = some listen ∧
      arguments = address :: List.flatMap Given.arguments givens) ∨
    ∃ e, Refused arguments e := by
  cases arguments with
  | nil => exact .inr ⟨_, .missingAddress⟩
  | cons address rest =>
      cases haddress : SocketAddress.read? address with
      | none => exact .inr ⟨_, .invalidAddress haddress⟩
      | some listen =>
          obtain ⟨givens, rest, rfl, rfl | ⟨e, hrest⟩⟩ := exists_givens rest
          · exact .inl ⟨address, listen, givens, haddress, by rw [List.append_nil]⟩
          · exact .inr ⟨e, .flags haddress givens hrest⟩

/-- **Arguments are read exactly.**  Let the environment hold no value or one that can be read.
Arguments are settings if and only if the first of them is an address and the others are flags with
values that can be read, in pairs; each setting is then the last one given, or else that of the
environment, or else the usual one.  They are refused with an error if and only if that names what
is wrong first: with the address, and then with the flags from left to right. -/
theorem arguments_read_exactly (arguments : List String) (environment : String → Option String)
    (henvironment : Readable environment) :
    (∀ s, read arguments environment = .ok s ↔
      ∃ address listen givens, SocketAddress.read? address = some listen ∧
        arguments = address :: List.flatMap Given.arguments givens ∧
        s = asked listen environment givens) ∧
    ∀ e, read arguments environment = .error e ↔ Refused arguments e := by
  rcases accepted_or_refused arguments with ⟨address, listen, givens, haddress, rfl⟩ | ⟨e, he⟩
  · have hread := read_of_givens henvironment haddress givens
    refine ⟨fun s => ⟨fun h => ?_, ?_⟩, fun e => ⟨fun h => ?_, fun h => ?_⟩⟩
    · rw [hread] at h
      exact ⟨address, listen, givens, haddress, rfl, (Except.ok.inj h).symm⟩
    · rintro ⟨address', listen', givens', haddress', heq, rfl⟩
      rw [heq]
      exact read_of_givens henvironment haddress' givens'
    · rw [hread] at h
      cases h
    · exact read_of_refused henvironment h
  · have hread := read_of_refused henvironment he
    refine ⟨fun s => ⟨fun h => ?_, ?_⟩, fun e' => ⟨fun h => ?_, fun h => ?_⟩⟩
    · rw [hread] at h
      cases h
    · rintro ⟨address, listen, givens, haddress, heq, rfl⟩
      rw [heq]
      exact read_of_givens henvironment haddress givens
    · rw [hread] at h
      exact Except.error.inj h ▸ he
    · exact read_of_refused henvironment h

/-- Flags that are given twice, with a limit in the environment; and the name of a flag where a
level should stand, in front of something else that is wrong. -/
theorem arguments_read_exactly_of_repeated :
    let environment := fun name => if name = maxProgramVariable then some "100" else none
    let address := SocketAddress.v4 ⟨#v[127, 0, 0, 1]⟩ 80
    Readable environment ∧
    read ["127.0.0.1:80", "--max-program-len", "5", "--log", "WARN", "--max-program-len", "+6"]
      environment = .ok { listen := address, maxProgram := 6, level := some .warn } ∧
    read ["127.0.0.1:80", "--log", "info"] environment =
      .ok { listen := address, maxProgram := 100, level := some .info } ∧
    read ["127.0.0.1:80", "--max-program-len", "5", "--log", "--log", "quiet"] environment =
      .error (.invalidValue "--log" "--log") := by
  intro environment address
  have hhundred : size? "100" = some 100 := by decide +kernel
  have henvironment : Readable environment := readable_of_some rfl hhundred
  have haddress : SocketAddress.read? "127.0.0.1:80" = some address := by decide +kernel
  have hfive : size? "5" = some 5 := by decide +kernel
  have hsix : size? "+6" = some 6 := by decide +kernel
  refine ⟨henvironment, ?_, ?_, ?_⟩
  · exact ((arguments_read_exactly _ environment henvironment).1 _).mpr
      ⟨_, _, [.maxProgram "5" 5 hfive, .level "WARN" .warn (by decide +kernel),
        .maxProgram "+6" 6 hsix], haddress, rfl, rfl⟩
  · exact ((arguments_read_exactly _ environment henvironment).1 _).mpr
      ⟨_, _, [.level "info" .info (by decide +kernel)], haddress, rfl, by decide +kernel⟩
  · have hlevel : level? "--log" = none := by decide +kernel
    exact ((arguments_read_exactly _ environment henvironment).2 _).mpr
      (.flags haddress [.maxProgram "5" 5 hfive] (.noLevel hlevel))

/-! ### Flags and the environment -/

/-- The name of the flag is no address and no value, so where it is among arguments that can be read
it is a flag. -/
theorem exists_getLast?_maxProgram {givens : List Given}
    (haddress : SocketAddress.read? address = some listen)
    (h : Flag.maxProgram.name ∈ address :: givens.flatMap Given.arguments) :
    ∃ n, (givens.filterMap Given.maxProgram?).getLast? = some n := by
  have hfound : ∃ n, n ∈ givens.filterMap Given.maxProgram? := by
    rcases List.mem_cons.mp h with rfl | h
    · have hnone : SocketAddress.read? Flag.maxProgram.name = none := by decide +kernel
      rw [hnone] at haddress
      cases haddress
    · obtain ⟨g, hg, hname⟩ := List.mem_flatMap.mp h
      cases g with
      | maxProgram value n hvalue => exact ⟨n, List.mem_filterMap.mpr ⟨_, hg, rfl⟩⟩
      | level value l hvalue =>
          rcases List.mem_cons.mp hname with hname | hname
          · exact absurd hname (by decide)
          · obtain rfl := List.mem_singleton.mp hname
            have hnone : level? Flag.maxProgram.name = none := by decide +kernel
            rw [hnone] at hvalue
            cases hvalue
  obtain ⟨n, hn⟩ := hfound
  exact ⟨_, List.getLast?_eq_some_getLast (List.ne_nil_of_mem hn)⟩

/-- **A flag overrides the environment.**  Let arguments be settings where the environment is empty,
and let the limit of programs be among their flags.  They are the same settings in every environment
that can be read.  Where the environment holds something that is no number, they are refused. -/
theorem flags_override_environment (arguments : List String)
    (environment : String → Option String) (s : Settings)
    (h : read arguments (fun _ => none) = .ok s) (hflag : Flag.maxProgram.name ∈ arguments) :
    (Readable environment → read arguments environment = .ok s) ∧
    ∀ value, environment maxProgramVariable = some value → size? value = none →
      read arguments environment = .error (.invalidValue maxProgramVariable value) := by
  have hempty : Readable fun _ => none := readable_of_none rfl
  rcases accepted_or_refused arguments with ⟨address, listen, givens, haddress, rfl⟩ | ⟨e, he⟩
  · obtain ⟨n, hn⟩ := exists_getLast?_maxProgram haddress hflag
    rw [read_of_givens hempty haddress] at h
    obtain rfl := Except.ok.inj h
    refine ⟨fun henvironment => ?_, fun value hvalue hsize => ?_⟩
    · rw [read_of_givens henvironment haddress, asked, asked, hn]
      rfl
    · exact read_of_unreadable haddress hvalue hsize _
  · rw [read_of_refused hempty he] at h
    cases h

/-- The limit in the environment is overridden by the last flag. -/
theorem flags_override_environment_hundred :
    let arguments := ["127.0.0.1:80", "--max-program-len", "5", "--max-program-len", "6"]
    let environment := fun name => if name = maxProgramVariable then some "100" else none
    let s : Settings := { listen := .v4 ⟨#v[127, 0, 0, 1]⟩ 80, maxProgram := 6 }
    read arguments (fun _ => none) = .ok s ∧ Flag.maxProgram.name ∈ arguments ∧
    read arguments environment = .ok s := by
  intro arguments environment s
  have haddress : SocketAddress.read? "127.0.0.1:80" = some s.listen := by decide +kernel
  have hread : read arguments (fun _ => none) = .ok s :=
    read_of_givens (readable_of_none rfl) haddress
      [.maxProgram "5" 5 (by decide +kernel), .maxProgram "6" 6 (by decide +kernel)]
  have hflag : Flag.maxProgram.name ∈ arguments := by decide
  have hhundred : size? "100" = some 100 := by decide +kernel
  have henvironment : Readable environment := readable_of_some rfl hhundred
  exact ⟨hread, hflag, (flags_override_environment arguments environment s hread hflag).1
    henvironment⟩

/-- An environment that cannot be read refuses arguments that do not need it. -/
theorem environment_refuses_flag :
    let arguments := ["127.0.0.1:0", "--max-program-len", "9"]
    let environment := fun name => if name = maxProgramVariable then some "lots" else none
    read arguments (fun _ => none) =
      .ok { listen := .v4 ⟨#v[127, 0, 0, 1]⟩ 0, maxProgram := 9 } ∧
    read arguments environment = .error (.invalidValue "VASM_MAX_PROGRAM_LEN" "lots") := by
  intro arguments environment
  have haddress : SocketAddress.read? "127.0.0.1:0" = some (.v4 ⟨#v[127, 0, 0, 1]⟩ 0) := by
    decide +kernel
  have hnine : size? "9" = some 9 := by decide +kernel
  have hlots : size? "lots" = none := by decide +kernel
  have hvalue : environment maxProgramVariable = some "lots" := rfl
  refine ⟨?_, read_of_unreadable haddress hvalue hlots _⟩
  exact read_of_givens (readable_of_none rfl) haddress [.maxProgram "9" 9 hnine]

end Settings

end RegisterMachine
