import TextGrammar.Form.Basic
import TextGrammar.Text.Quoted

/-!
How a form is written in messages: literals in quotes, patterns between slashes, sequences in
brackets, and every other form by its name with its parts in parentheses.
-/

namespace TextGrammar.Form

mutual

def render : Form String → List Char
  | .literal text => Text.quote text.toList
  | .leaf source => '/' :: (source.toList ++ ['/'])
  | .sequence forms => '[' :: (renderAll forms ++ [']'])
  | .oneOf forms => "oneOf(".toList ++ (renderAll forms ++ [')'])
  | .manyOf form => "manyOf(".toList ++ (form.render ++ [')'])
  | .optional form => "optional(".toList ++ (form.render ++ [')'])
  | .reference name => "ref(".toList ++ (Text.quote name.toList ++ [')'])
  | .except form exclusions =>
    "except(".toList ++
      (form.render ++ (exclusions.flatMap (fun text => ", ".toList ++ Text.quote text.toList)
        ++ [')']))

def renderAll : List (Form String) → List Char
  | [] => []
  | [form] => form.render
  | form :: rest => form.render ++ (", ".toList ++ renderAll rest)

end

def rendering (form : Form String) : String := String.ofList form.render

end TextGrammar.Form
