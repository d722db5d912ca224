import RemoteConsole.Program.Run
import RemoteConsole.Settings.Discovery

/-!
# Command line arguments

The arguments name one of three programs and give its options. Options stand before
or behind the name if they are shared by all programs, and else behind it. An
option is given once at most; its value follows it, or is attached to it. The line
that `exec` runs starts with the first argument that is no option it knows, and
everything behind belongs to the line. What the arguments leave open is taken from
the environment.
-/

namespace RemoteConsole
namespace Arguments

/-- What an option does. -/
inductive Effect where
  | flag
  /-- It has a value, which must be good. -/
  | value (isGood : String → Bool)
  /-- It shows the version and nothing else happens. -/
  | version
  /-- It shows how the program is used and nothing else happens. -/
  | help

structure OptionSpec where
  name : String
  letter : Option Char := none
  effect : Effect := .value fun _ => true

/-- What may be given at one place: options, the names of programs, and whether a
line may follow. -/
structure Level where
  options : List OptionSpec
  programs : List String := []
  takesLine : Bool := false

/-- Why the arguments do not lead to a run. -/
inductive Stop where
  | usage
  /-- The version is asked for, by a program of this name. -/
  | version (program : String)
  | help
  deriving Repr, DecidableEq

/-- What has been given at one level. -/
structure Given where
  flags : List String := []
  values : List (String × String) := []
  line : List String := []
  deriving Repr, DecidableEq

def Given.value? (g : Given) (name : String) : Option String :=
  (g.values.find? (·.1 == name)).map (·.2)

def Given.has (g : Given) (name : String) : Bool :=
  g.flags.contains name || (g.value? name).isSome

/-- Give an option a value. -/
def Given.setValue (g : Given) (o : OptionSpec) (v : String) : Except Stop Given :=
  match o.effect with
  | .value isGood =>
    if g.has o.name || !isGood v then .error .usage
    else .ok { g with values := g.values ++ [(o.name, v)] }
  | _ => .error .usage

/-- Set an option that has no value. -/
def Given.setFlag (program : String) (g : Given) (o : OptionSpec) : Except Stop Given :=
  match o.effect with
  | .flag => if g.has o.name then .error .usage else .ok { g with flags := g.flags ++ [o.name] }
  | .version => .error (.version program)
  | .help => .error .help
  | .value _ => .error .usage

def OptionSpec.hasValue (o : OptionSpec) : Bool :=
  match o.effect with
  | .value _ => true
  | _ => false

/-- What an argument is at a level. -/
inductive Shape where
  | word
  /-- The mark behind which there are no options. -/
  | mark
  /-- An option by its name, perhaps with a value attached. -/
  | long (o : OptionSpec) (attached : Option String)
  /-- Options by their letters, the last one perhaps with a value attached. -/
  | letters (os : List OptionSpec) (attached : Option String)
  /-- An option that nobody knows. -/
  | unknown

/-- What letters behind a dash stand for. -/
def lettersShape (level : Level) : List Char → List OptionSpec → Shape
  | [], os => .letters os.reverse none
  | c :: rest, os =>
    match level.options.find? (·.letter == some c) with
    | none => .unknown
    | some o =>
      if o.hasValue then
        let attached := if rest.head? == some '=' then rest.tail else rest
        .letters (o :: os).reverse (if rest.isEmpty then none else some (String.ofList attached))
      else lettersShape level rest (o :: os)

/-- What an argument is at a level. Where a line may start, letters that are not
all known stand for themselves. -/
def shape (level : Level) (arg : String) : Shape :=
  match arg.toList with
  | ['-'] => .word
  | ['-', '-'] => .mark
  | '-' :: '-' :: rest =>
    let name := String.ofList (rest.takeWhile (· != '='))
    match level.options.find? (·.name == name) with
    | none => .unknown
    | some o =>
      let attached := rest.dropWhile (· != '=')
      .long o (if attached.isEmpty then none else some (String.ofList attached.tail))
  | '-' :: letters =>
    if level.takesLine && !letters.all fun c => level.options.any (·.letter == some c) then .unknown
    else lettersShape level letters []
  | _ => .word

def setFlags (program : String) (g : Given) (os : List OptionSpec) : Except Stop Given :=
  os.foldlM (Given.setFlag program) g

/-- What a level's arguments come to: what was given, and the program named with the
arguments behind it. -/
abbrev Result := Except Stop (Given × Option (String × List String))

/-- Take all arguments as words. -/
def readWords (level : Level) (g : Given) (args : List String) : Result :=
  if args.isEmpty then .ok (g, none)
  else if level.takesLine then .ok ({ g with line := g.line ++ args }, none)
  else .error .usage

/-- Read the arguments of a level. `open?` is the option that waits for a value. -/
def read (program : String) (level : Level) : Option OptionSpec → Given → List String → Result
  | some _, _, [] => .error .usage
  | none, g, [] => .ok (g, none)
  | open?, g, arg :: rest =>
    if open?.isNone && level.programs.contains arg then .ok (g, some (arg, rest))
    else
      match open?, shape level arg with
      | some _, .mark => .error .usage
      | none, .mark => readWords level g rest
      | some _, .long _ _ => .error .usage
      | none, .long o attached =>
        if o.hasValue then
          match attached with
          | some v => (g.setValue o v).bind fun g => read program level none g rest
          | none => read program level (some o) g rest
        else if attached.isSome then .error .usage
        else (g.setFlag program o).bind fun g => read program level none g rest
      | some _, .letters _ _ => .error .usage
      | none, .letters os attached =>
        match os.getLast? with
        | none => .error .usage
        | some last =>
          if last.hasValue then
            (setFlags program g os.dropLast).bind fun g =>
              match attached with
              | some v => (g.setValue last v).bind fun g => read program level none g rest
              | none => read program level (some last) g rest
          else (setFlags program g os).bind fun g => read program level none g rest
      | some o, .word => (g.setValue o arg).bind fun g => read program level none g rest
      | none, .word => readWords level g (arg :: rest)
      | some o, .unknown =>
        if level.takesLine then (g.setValue o arg).bind fun g => read program level none g rest
        else .error .usage
      | none, .unknown =>
        if level.takesLine then readWords level g (arg :: rest) else .error .usage

/-! ### The options of the programs -/

def programName : String := "wcterm"

def version : String := "0.0.0"

/-- The port a text stands for: a number in decimal, perhaps with a sign. -/
def port? (s : String) : Option UInt16 :=
  let (negative, ds) :=
    match s.toList with
    | '+' :: ds => (false, ds)
    | '-' :: ds => (true, ds)
    | ds => (false, ds)
  if ds.isEmpty || !ds.all Char.isDigit then none
  else
    let n := ds.foldl (fun n c => n * 10 + (c.toNat - 48)) 0
    if n < Nat.pow 2 16 && (!negative || n = 0) then some (UInt16.ofNat n) else none

def shared : List OptionSpec :=
  [{ name := "verbose", letter := some 'v', effect := .flag },
   { name := "config-dir", effect := .value fun v => v != "" },
   { name := "help", letter := some 'h', effect := .help },
   { name := "version", letter := some 'V', effect := .version }]

def clientOptions : List OptionSpec :=
  [{ name := "server" }, { name := "no-rpc", effect := .flag }]

/-- What may stand before the name of a program. -/
def top : Level := { options := shared, programs := ["serve", "connect", "exec", "help"] }

/-- What may stand behind the name of a program. -/
def levelOf (program : String) : Level :=
  match program with
  | "serve" =>
    { options := shared ++
        [{ name := "port", letter := some 'p', effect := .value fun v => (port? v).isSome },
         { name := "bind", letter := some 'b' }, { name := "token" }] }
  | "connect" => { options := shared ++ clientOptions ++ [{ name := "prompt" }] }
  | _ =>
    { options := shared ++ clientOptions ++
        [{ name := "user", letter := some 'u' }, { name := "password" }]
      takesLine := true }

/-- A program and its options. -/
inductive Program where
  | serve (p : Serve)
  | connect (p : Connect)
  | exec (p : Exec)
  deriving Repr, DecidableEq

/-- What the arguments come to. -/
structure Invocation where
  verbose : Bool := false
  /-- The directory of the user's settings. -/
  configDir : Option String := none
  program : Program
  deriving Repr, DecidableEq

/-- The value of an option, or else of a variable. -/
def valueOr (env : Environment) (g : Given) (name fallback : String) : Option String :=
  g.value? name <|> env fallback

def clientFlags (env : Environment) (g : Given) : ClientFlags where
  server := valueOr env g "server" "WCTERM_SERVER_URL"
  noRemote := g.has "no-rpc"

/-- The program of what was given behind its name. -/
def program? (env : Environment) (name : String) (g : Given) : Option Program :=
  match name with
  | "serve" =>
    some <| .serve
      { bind := g.value? "bind", port := (g.value? "port").bind port?
        token := valueOr env g "token" "WCTERM_TOKEN" }
  | "connect" => some (.connect { client := clientFlags env g, prompt := g.value? "prompt" })
  | _ =>
    if g.line.isEmpty then none
    else
      some <| .exec
        { client := clientFlags env g, user := g.value? "user"
          password := valueOr env g "password" "WCTERM_PASSWORD", words := g.line }

/-- The name of the variable for the directory of the user's settings. -/
def dirVariable : String := "WCTERM_CONFIG_DIR"

/-- Whether a level goes without the directory while the variable for it is set to
nothing, which is refused. -/
def lacksDir (env : Environment) (g : Given) : Bool :=
  (g.value? "config-dir").isNone && env dirVariable == some ""

/-- What the arguments come to. -/
def invocation (env : Environment) (args : List String) : Except Stop Invocation := do
  let (above, named) ← read programName top none {} args
  match named with
  | none => .error .usage
  | some ("help", _) => .error .help
  | some (name, rest) =>
    let (given, _) ← read (programName ++ "-" ++ name) (levelOf name) none {} rest
    match program? env name given with
    | none => .error .usage
    | some program =>
      if lacksDir env above || lacksDir env given then .error .usage
      else
        return {
          verbose := above.has "verbose" || given.has "verbose"
          configDir := given.value? "config-dir" <|> above.value? "config-dir" <|> env dirVariable
          program }

end Arguments
end RemoteConsole
