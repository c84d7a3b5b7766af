import EntitySearch.Plan.Basic
import EntitySearch.Value.Text

/-! Plans, expressions and predicates as SQL-like text. -/

set_option autoImplicit false

namespace EntitySearch

def quoteLiteral (text : String) : String :=
  String.ofList ('\'' :: text.toList.flatMap (fun c => if c = '\'' then [c, c] else [c]) ++ ['\''])

mutual

def Value.sql : Value → String
  | .null => "NULL"
  | .bool true => "TRUE"
  | .bool false => "FALSE"
  | .int i => (Value.int i).text
  | .float x => (Value.float x).text
  | .decimal d => (Value.decimal d).text
  | .list items => "(" ++ ", ".intercalate (Value.sqlItems items) ++ ")"
  | other => quoteLiteral other.text

def Value.sqlItems : List Value → List String
  | [] => []
  | item :: rest => item.sql :: Value.sqlItems rest

end

mutual

def Expr.sql : Expr → String
  | .field f => f.qualified
  | .literal v => v.sql
  | .upper e => "UPPER(" ++ e.sql ++ ")"
  | .trim e => "TRIM(" ++ e.sql ++ ")"
  | .length e => "LENGTH(" ++ e.sql ++ ")"
  | .call name args => Text.upper name ++ "(" ++ ", ".intercalate (Expr.sqlItems args) ++ ")"
  | .case condition result otherwise =>
    "CASE WHEN " ++ condition.sql ++ " THEN " ++ result.sql ++
      (match otherwise with
        | some e => " ELSE " ++ e.sql
        | none => "") ++ " END"
  | .truth p => "(" ++ p.sql ++ ")"

def Expr.sqlItems : List Expr → List String
  | [] => []
  | e :: rest => e.sql :: Expr.sqlItems rest

def Predicate.sql : Predicate → String
  | .compare op left right => left.sql ++ " " ++ op.symbol ++ " " ++ right.sql
  | .isIn e values negated =>
    e.sql ++ (if negated then " NOT IN (" else " IN (") ++
      ", ".intercalate (Value.sqlItems values) ++ ")"
  | .between e low high => e.sql ++ " BETWEEN " ++ low.sql ++ " AND " ++ high.sql
  | .like e pattern escape =>
    e.sql ++ " LIKE " ++ quoteLiteral pattern ++
      if pattern.toList.contains escape then " ESCAPE " ++ quoteLiteral (String.singleton escape)
      else ""
  | .isNull e => e.sql ++ " IS NULL"
  | .isNotNull e => e.sql ++ " IS NOT NULL"
  | .isEmpty e => e.sql ++ " IS EMPTY"
  | .isNotEmpty e => e.sql ++ " IS NOT EMPTY"
  | .isTrue e => e.sql ++ " IS TRUE"
  | .and parts => " AND ".intercalate (Predicate.sqlParts parts)
  | .or parts => " OR ".intercalate (Predicate.sqlParts parts)
  | .not p => "NOT (" ++ p.sql ++ ")"

/-- The parts of a compound, each in brackets when it is compound itself. -/
def Predicate.sqlParts : List Predicate → List String
  | [] => []
  | p :: rest =>
    (if p.isCompound then "(" ++ p.sql ++ ")" else p.sql) :: Predicate.sqlParts rest

end

def OrderTerm.sql (t : OrderTerm) : String :=
  t.expr.sql ++ " " ++ t.direction.text

def Selection.sql (position : Nat) (s : Selection) : String :=
  s.expr.sql ++ " AS " ++ s.key position

namespace Plan

def distinctSql (distinct : Bool) : String := if distinct then "DISTINCT " else ""

def projectionSql (p : Plan) : String :=
  match p.projection with
  | .entity => distinctSql p.distinct ++ p.root
  | .columns selections =>
    distinctSql p.distinct ++ ", ".intercalate (selections.mapIdx fun i s => s.sql i)
  | .count distinct => "COUNT(" ++ distinctSql distinct ++ p.root ++ ")"

def clause (word : String) (parts : List String) : String :=
  if parts.isEmpty then "" else word ++ ", ".intercalate parts

def sql (p : Plan) : String :=
  "SELECT " ++ p.projectionSql ++ " FROM " ++ p.root ++
    String.join (p.joins.map fun j => " INNER JOIN " ++ j.entity ++ " ON " ++ j.dotted) ++
    (p.restriction.elim "" fun r => " WHERE " ++ r.sql) ++
    clause " GROUP BY " (p.groupBy.map Expr.sql) ++
    clause " ORDER BY " (p.orderBy.map OrderTerm.sql) ++
    (p.limit.elim "" fun n => " LIMIT " ++ Number.intText n) ++
    (p.offset.elim "" fun n => " OFFSET " ++ Number.intText n)

end Plan

end EntitySearch
