import BuildController.Text.Combining
import BuildController.Text.Invisible

/-! Quoted text, as messages show a text that somebody wrote: between double quotes, with an escape
for each character that would end the quotation or could not be told from its neighbours. -/
namespace BuildController.Text

/-- The escape of a character that has no shorter one: its code point in base sixteen. -/
def codeEscape (c : Char) : List Char :=
  '\\' :: 'u' :: '\x7b' :: Nat.toDigits 16 c.toNat ++ ['\x7d']

def quotedChar (c : Char) : List Char :=
  if c = '\x22' || c = '\\' then ['\\', c]
  else if c = '\n' then ['\\', 'n']
  else if c = '\r' then ['\\', 'r']
  else if c = '\t' then ['\\', 't']
  else if c = '\x00' then ['\\', '0']
  else if isInvisible c || isCombining c then codeEscape c
  else [c]

def quoted (s : String) : String :=
  .ofList ('\x22' :: s.toList.flatMap quotedChar ++ ['\x22'])

end BuildController.Text
