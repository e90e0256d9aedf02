/-
**The arguments of the command.**

Arguments are options or names of files, in any order; after `--` all are names.  An option is long
or short, short ones can be joined, and the value of an option follows it as the next argument or
in the same one.  Only `-v` may be given more than once.

Main definitions:

* `Flag`, `ValueOption` — the options without and with a value;
* `Argument` — an option or a name;
* `Stop` — why the command ends before it begins;
* `Argument.parse` — the arguments that a command line has;
* `Argument.settings`, `Argument.profile` — what they ask for.
-/

import XmlScribe.Layout.Xhtml
import XmlScribe.Writer.Settings

set_option autoImplicit false

namespace XmlScribe

/-- An option without a value. -/
inductive Flag where
  /-- Content is laid out on lines. -/
  | format
  /-- A byte order mark is written. -/
  | mark
  /-- No XML declaration is written. -/
  | noDeclaration
  /-- Missing namespace declarations are not added. -/
  | noCompletion
  /-- Namespaces are declared where they are used. -/
  | declareInPlace
  /-- Declared entities are not used. -/
  | noDeclaredEntities
  /-- Control characters are escaped. -/
  | escapeControl
  /-- Characters outside ASCII are escaped. -/
  | escapeNonAscii
  /-- Private use characters are escaped. -/
  | escapePrivateUse
  /-- No line ends after the document element. -/
  | noFinalLine
  /-- The command tells more about what it does. -/
  | verbose
  /-- The command only tells its version. -/
  | version
  /-- The command only tells its usage. -/
  | help
deriving DecidableEq, Repr

/-- An option with a value. -/
inductive ValueOption where
  /-- The text for a level of indentation. -/
  | indent
  /-- The label of the character set. -/
  | encoding
  /-- The file to write to. -/
  | output
  /-- When the predefined entities are used. -/
  | predefined
  /-- The layout profile. -/
  | profile
  /-- The line separator. -/
  | newline
deriving DecidableEq, Repr

/-- An argument that has been understood. -/
inductive Argument where
  /-- An option without a value. -/
  | flag (f : Flag)
  /-- An option and its value. -/
  | value (o : ValueOption) (v : Text)
  /-- The name of a file to be read. -/
  | file (name : Text)
deriving DecidableEq, Repr

/-- Why the command ends before it begins. -/
inductive Stop where
  /-- The arguments cannot be understood. -/
  | usage
  /-- The version is asked for. -/
  | version
  /-- The usage is asked for. -/
  | help
deriving DecidableEq, Repr

namespace Flag

/-- The flags by their long names. -/
def byName : List (String × Flag) :=
  [("format", .format), ("bom", .mark), ("noprolog", .noDeclaration),
   ("nonsensure", .noCompletion), ("nsinplace", .declareInPlace),
   ("noent-defined", .noDeclaredEntities), ("encode-control", .escapeControl),
   ("encode-non-ascii", .escapeNonAscii), ("encode-private-use", .escapePrivateUse),
   ("noendnewline", .noFinalLine), ("verbose", .verbose), ("version", .version), ("help", .help)]

/-- The flags by their short names. -/
def byLetter : List (Char × Flag) :=
  [('v', .verbose), ('V', .version), ('h', .help)]

/-- The settings as the flag asks for them. -/
def apply (settings : Settings) : Flag → Settings
  | .format => { settings with formatted := true }
  | .mark => { settings with byteOrderMark := true }
  | .noDeclaration => { settings with xmlDeclaration := false }
  | .noCompletion => { settings with completeNamespaces := false }
  | .declareInPlace => { settings with declareAtTop := false }
  | .noDeclaredEntities => { settings with declaredEntities := false }
  | .escapeControl => { settings with escapeControl := true }
  | .escapeNonAscii => { settings with escapeNonAscii := true }
  | .escapePrivateUse => { settings with escapePrivateUse := true }
  | .noFinalLine => { settings with endsWithLine := false }
  | .verbose => settings
  | .version => settings
  | .help => settings

end Flag

/-- The uses of predefined entities by name. -/
def PredefinedUse.byName : List (String × PredefinedUse) :=
  [("always", .always), ("as-needed", .asNeeded), ("never", .never)]

/-- The profiles by name. -/
def Profile.byName : List (String × Profile) :=
  [("default", .everyBlock), ("xhtml", ProfileTable.xhtml.profile),
   ("none", ProfileTable.empty.profile)]

/-- The line separators by name. -/
def Settings.separatorByName : List (String × Text) :=
  [("lf", ['\n']), ("crlf", ['\r', '\n']), ("cr", ['\r'])]

namespace ValueOption

/-- The options by their long names. -/
def byName : List (String × ValueOption) :=
  [("indent", .indent), ("encoding", .encoding), ("output", .output),
   ("predefined", .predefined), ("profile", .profile), ("newline", .newline)]

/-- The options by their short names. -/
def byLetter : List (Char × ValueOption) :=
  [('o', .output)]

/-- The value is one that the option can have. -/
def allows (o : ValueOption) (v : Text) : Bool :=
  let name := String.ofList v
  match o with
  | .predefined => (PredefinedUse.byName.lookup name).isSome
  | .profile => (Profile.byName.lookup name).isSome
  | .newline => (Settings.separatorByName.lookup name).isSome
  | _ => true

/-- The settings as the option with a value asks for them. -/
def apply (settings : Settings) (o : ValueOption) (v : Text) : Except SaveFault Settings :=
  let name := String.ofList v
  match o with
  | .indent => .ok { settings with indent := v }
  | .encoding => settings.withEncoding v
  | .predefined =>
      .ok { settings with
        predefined := (PredefinedUse.byName.lookup name).getD settings.predefined }
  | .newline =>
      .ok { settings with
        separator := (Settings.separatorByName.lookup name).getD settings.separator }
  | .output => .ok settings
  | .profile => .ok settings

end ValueOption

namespace Argument

/-! ### Understanding arguments -/

/-- The argument cannot be given twice. -/
def clashes : Argument → Argument → Bool
  | .flag f, .flag g => f == g && f != .verbose
  | .value o _, .value p _ => o == p
  | _, _ => false

/-- The arguments so far and another one. -/
def accept (known : List Argument) (a : Argument) : Except Stop (List Argument) :=
  if known.any (clashes a) then .error .usage
  else
    match a with
    | .flag .version => .error .version
    | .flag .help => .error .help
    | .value o v => if o.allows v then .ok (known ++ [a]) else .error .usage
    | _ => .ok (known ++ [a])

/-- The arguments after `known` and a long option with a text after the hyphens, and which option
waits for its value. -/
def takeLong (known : List Argument) (body : Text) :
    Except Stop (List Argument × Option ValueOption) :=
  match Text.cutAt ['='] body with
  | some (name, v) =>
      match ValueOption.byName.lookup (String.ofList name) with
      | some o => (accept known (.value o v)).map (·, none)
      | none => .error .usage
  | none =>
      let name := String.ofList body
      match Flag.byName.lookup name, ValueOption.byName.lookup name with
      | some f, _ => (accept known (.flag f)).map (·, none)
      | none, some o => .ok (known, some o)
      | none, none => .error .usage

/-- A value behind a short option, which an equals sign may precede. -/
def joinedValue : Text → Text
  | '=' :: v => v
  | v => v

/-- The arguments after `known` and short options in one argument, the value of the last one
included.  They count one after the other, so that one of them can stop the command before a later
one is looked at. -/
def takeShort (known : List Argument) : Text → Except Stop (List Argument × Option ValueOption)
  | [] => .ok (known, none)
  | c :: s =>
      match Flag.byLetter.lookup c, ValueOption.byLetter.lookup c with
      | some f, _ => do
          let known ← accept known (.flag f)
          takeShort known s
      | none, some o =>
          if s.isEmpty then .ok (known, some o)
          else (accept known (.value o (joinedValue s))).map (·, none)
      | none, none => .error .usage

/-- The arguments after `known` and another one. -/
def take (known : List Argument) : Text → Except Stop (List Argument × Option ValueOption)
  | '-' :: '-' :: body => takeLong known body
  | '-' :: c :: s => takeShort known (c :: s)
  | name => (accept known (.file name)).map (·, none)

/-- The argument would be read as an option. -/
def isOption : Text → Bool
  | '-' :: _ :: _ => true
  | _ => false

/-- The arguments of a command line after `known`, where an option may wait for its value. -/
def parseFrom : (waiting : Option ValueOption) → (known : List Argument) → List Text →
    Except Stop (List Argument)
  | none, known, [] => .ok known
  | some _, _, [] => .error .usage
  | some o, known, v :: rest =>
      if isOption v then .error .usage
      else do
        let known ← accept known (.value o v)
        parseFrom none known rest
  | none, known, arg :: rest =>
      if arg = ['-', '-'] then .ok (known ++ rest.map .file)
      else do
        let (known, waiting) ← take known arg
        parseFrom waiting known rest

/-- The names of the files to be read. -/
def files (arguments : List Argument) : List Text :=
  arguments.filterMap fun a =>
    match a with
    | .file name => some name
    | _ => none

/-- The arguments of a command line.  There must be a file to be read. -/
def parse (line : List Text) : Except Stop (List Argument) := do
  let arguments ← parseFrom none [] line
  if (files arguments).isEmpty then throw .usage
  return arguments

/-! ### What arguments ask for -/

/-- The value of an option, if it is given. -/
def valueOf? (o : ValueOption) (arguments : List Argument) : Option Text :=
  arguments.findSome? fun a =>
    match a with
    | .value p v => if p = o then some v else none
    | _ => none

/-- The settings as an argument asks for them. -/
def apply (settings : Settings) : Argument → Except SaveFault Settings
  | .flag f => .ok (f.apply settings)
  | .value o v => o.apply settings v
  | .file _ => .ok settings

/-- The settings that the arguments ask for. -/
def settings (arguments : List Argument) : Except SaveFault Settings :=
  arguments.foldlM apply .standard

/-- The layout profile that the arguments ask for. -/
def profile (arguments : List Argument) : Profile :=
  ((valueOf? .profile arguments).bind fun v => Profile.byName.lookup (String.ofList v)).getD
    .everyBlock

end Argument

end XmlScribe
