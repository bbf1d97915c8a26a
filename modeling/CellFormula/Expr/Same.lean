import CellFormula.Expr.Basic

namespace CellFormula.Expr

mutual

def same : Expr → Expr → Bool
  | empty, empty => true
  | string a, string b => a == b
  | error a, error b => a == b
  | number a, number b => a.same b
  | boolean a, boolean b => a == b
  | cell a, cell b => a == b
  | bracketed a, bracketed b => same a b
  | call f as, call g bs => f == g && sameAll as bs
  | comparison o a a', comparison p b b' => o == p && same a b && same a' b'
  | chain as, chain bs => sameOperations as bs
  | intersection a a', intersection b b' => same a b && same a' b'
  | union as, union bs => sameAll as bs
  | textJoin a a', textJoin b b' => same a b && same a' b'
  | range a a', range b b' => same a b && same a' b'
  | sheet a a', sheet b b' => same a b && same a' b'
  | structured a, structured b => same a b
  | table s a, table t b => s == t && same a b
  | _, _ => false

def sameAll : List Expr → List Expr → Bool
  | [], [] => true
  | a :: as, b :: bs => same a b && sameAll as bs
  | _, _ => false

def sameOperations : List (Step × Expr) → List (Step × Expr) → Bool
  | [], [] => true
  | (s, a) :: as, (t, b) :: bs => s == t && same a b && sameOperations as bs
  | _, _ => false

end

end CellFormula.Expr
