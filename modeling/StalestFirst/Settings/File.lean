import StalestFirst.Files
import StalestFirst.Settings.Yaml

namespace StalestFirst.Settings

/-! ## Settings in files -/

/-- The settings of a file, given what reading it brought. -/
def ofFile (path : String) (content : Except FileFault (List UInt8)) :
    Except Fault Settings :=
  let text := content.bind fun bytes =>
    match Text.Utf8.decode? bytes with
    | some text => .ok (String.ofList text)
    | none => .error .notText
  match text with
  | .ok text => ofYaml text
  | .error fault =>
      .error (.settings ("cannot read " ++ path ++ ": " ++ fault.message))

end StalestFirst.Settings
