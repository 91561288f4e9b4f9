import Grok.Text.Basic

namespace Grok.Text

theorem lt_irrefl (a : Text) : ¬a < a := List.lt_irrefl a

theorem lt_trans {a b c : Text} (h : a < b) (h' : b < c) : a < c := List.lt_trans h h'

theorem eq_of_not_lt {a b : Text} (h : ¬a < b) (h' : ¬b < a) : a = b :=
  List.le_antisymm (List.not_lt.1 h') (List.not_lt.1 h)

theorem ne_of_lt {a b : Text} (h : a < b) : a ≠ b := fun e => lt_irrefl a (by simp_all)

def atMost (a b : Text) : Bool := decide ¬b < a

end Grok.Text
