/-!
# Interface

The version of the library and the names that its users find in it.

## References

They are the reference's `__version__` and `__all__`.
-/

namespace NominalCheck

/-- The version of the library. -/
def version : String := "1.0.0"

/-- The public names, in order. -/
def publicNames : List String :=
  ["Checker", "CheckerConfig", "ConfigurationError", "TypeCheckError", "TypeCheckSettings",
    "TypeMismatchError", "TypeSpec", "__version__", "assert_type", "check", "classify",
    "configure_from_env", "configure_logging", "get_classifier", "matches", "matches_type",
    "native_classify", "reset_classifier", "set_classifier"]

end NominalCheck
