import NominalCheck.Settings
import NominalCheck.Value.Items

/-!
# Options

Beside the switches a few names with a leading underscore may be given to the settings. They are
options. Some say how the environment is read; the others are about further sources, such as files
and the command line, which there are none of here.

## Main definitions

* `Options` — how the environment is read.
* `isOption name` — `name` is that of an option.
* `Options.ofKeywords` — the options among the names given to the settings.
* `Options.read` — the value of a variable.

## References

The options are those of the constructor that the reference's `TypeCheckSettings` inherits.
-/

namespace NominalCheck

/-- How the environment is read. -/
structure Options where
  /-- The letter case of a variable counts. -/
  exactCase : Bool := false
  /-- Variables with an empty text do not count. -/
  ignoresEmpty : Bool := false
  /-- What stands before the name of a switch in that of its variable. -/
  lead : String
  /-- A text that stands for the absence value. -/
  absentWord : Option String := none
  deriving DecidableEq, Repr, Inhabited

/-- The names of the options that change how the environment is read. -/
def readingOptions : List String :=
  ["_case_sensitive", "_env_ignore_empty", "_env_prefix", "_env_parse_none_str"]

/-- The names of the options about other sources than the environment and the keywords: files,
stored secrets, the command line and nested models. Where such a source is there, its option adds
it; these sources are no part of an environment, and the options are let in without effect. -/
def sourceOptions : List String :=
  ["_nested_model_default_partial_update", "_env_prefix_target", "_env_file", "_env_file_encoding",
    "_env_nested_delimiter", "_env_nested_max_split", "_env_parse_enums", "_cli_prog_name",
    "_cli_parse_args", "_cli_settings_source", "_cli_parse_none_str", "_cli_hide_none_type",
    "_cli_avoid_json", "_cli_enforce_required", "_cli_use_class_docs_for_groups",
    "_cli_exit_on_error", "_cli_prefix", "_cli_flag_prefix_char", "_cli_implicit_flags",
    "_cli_ignore_unknown_args", "_cli_kebab_case", "_cli_shortcuts", "_secrets_dir"]

/-- Whether a name is that of an option. -/
def isOption (name : String) : Bool :=
  readingOptions.contains name || sourceOptions.contains name

namespace Options

/-- The options among the names given to the settings, where variables begin with `lead` if none
says otherwise. -/
def ofKeywords (lead : String) (keywords : Keywords) : Options :=
  let isOn (name : String) : Bool := ((keywords.lookup name).map Value.isTruthy).getD false
  let text? (name : String) : Option String := (keywords.lookup name).bind Value.text?
  { exactCase := isOn "_case_sensitive"
    ignoresEmpty := isOn "_env_ignore_empty"
    lead := (text? "_env_prefix").getD lead
    absentWord := text? "_env_parse_none_str" }

/-- The variables that count. -/
def visible (o : Options) (env : Environment) : Environment :=
  if o.ignoresEmpty then env.filter fun p => p.2 ≠ "" else env

/-- The text of the variable for a switch. -/
def text? (o : Options) (env : Environment) (name : String) : Option String :=
  if o.exactCase then (o.visible env).lookup (o.lead ++ name)
  else (o.visible env).find? (o.lead ++ name)

/-- The value of the variable for a switch. -/
def read? (o : Options) (env : Environment) (name : String) : Option Value :=
  (o.text? env name).map fun s => if o.absentWord = some s then .none else .text s

/-- Without options a variable has its text as value. -/
theorem read?_default (lead : String) (env : Environment) (name : String) :
    ({ lead } : Options).read? env name = (env.find? (lead ++ name)).map .text := by
  simp [read?, text?, visible]

/-- Where no option is given, none is set. -/
theorem ofKeywords_of_notMem (lead : String) {keywords : Keywords}
    (h : ∀ name ∈ readingOptions, keywords.lookup name = none) :
    ofKeywords lead keywords = { lead } := by
  simp only [readingOptions, List.mem_cons, List.not_mem_nil, or_false, forall_eq_or_imp,
    forall_eq] at h
  simp only [ofKeywords, h.1, h.2.1, h.2.2.1, h.2.2.2]
  rfl

end Options

end NominalCheck
