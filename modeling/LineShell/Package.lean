/-! # The package

The title and the version of the shell, and the names that it offers to hosts.
-/
namespace LineShell.Package

def title : String := "helmsman"

def version : String := "0.0.0"

structure VersionInfo where
  major : Nat
  minor : Nat
  micro : Nat
  level : String
  serial : Nat
  metadata : String

def versionInfo : VersionInfo := ⟨0, 0, 0, "final", 0, ""⟩

def names : List String := [
  "ArgumentError", "ArityError", "BindError", "Command", "CommandBuilder", "CommandException",
  "CommandNotFoundError", "CommandWarning", "Context", "ConversionError", "FaultCode",
  "FormatError", "Hook", "Integral", "LineReader", "OperationError", "Parameter", "RECOVERABLE",
  "Registry", "Role", "ShadowedCommandWarning", "Shell", "Signature", "SignatureError", "State",
  "__author__", "__license__", "__title__", "__version__", "bind", "command", "convert",
  "describe", "describe_all", "infer", "int16", "int32", "int64", "int8", "supported", "tokenize",
  "typename", "uint16", "uint32", "uint64", "uint8", "version_info"]

end LineShell.Package
