/-! Columns of a report. -/
namespace HugoStory.Text.Column

def blanks (count : Nat) : String := String.ofList (List.replicate count ' ')

def right (width : Nat) (text : String) : String := blanks (width - text.length) ++ text

def left (width : Nat) (text : String) : String := text ++ blanks (width - text.length)

end HugoStory.Text.Column
