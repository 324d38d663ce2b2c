import BuildConfig.Text.Unprintable

namespace BuildConfig
namespace Text

-- The written form of one character inside a quoted text.
def escape (c : Char) : List Char :=
  match c with
  | '"'    => ['\\', '"']
  | '\\'   => ['\\', '\\']
  | '\t'   => ['\\', 't']
  | '\r'   => ['\\', 'r']
  | '\n'   => ['\\', 'n']
  | '\x00' => ['\\', '0']
  | c =>
    if isUnprintable c
    then ['\\', 'u', '\x7b'] ++ Nat.toDigits 16 c.toNat ++ ['\x7d']
    else [c]

-- A text between double quotes on one line, with everything that would not show spelled out.
def quote (text : String) : String :=
  String.ofList ('"' :: text.toList.flatMap escape ++ ['"'])

end Text
end BuildConfig
