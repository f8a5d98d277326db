import PreparedCql.Text.Inspect

/-! Why a statement cannot be built. -/

namespace PreparedCql

/-- A predicate with more or fewer values than it has markers. -/
structure Mismatch where
  clause : Text
  markers : Nat
  values : Nat
deriving DecidableEq, Repr

inductive BuildError where
  | missingTable
  | markerMismatch (mismatch : Mismatch)
deriving DecidableEq, Repr

namespace BuildError

def message : BuildError → Text
  | missingTable => "table() must be set before build()".toList
  | markerMismatch mismatch =>
      "where clause `".toList ++ mismatch.clause ++ "` has ".toList ++
        Text.ofNat mismatch.markers ++ " placeholder(s) but ".toList ++
        Text.ofNat mismatch.values ++ " value(s) were supplied".toList

instance : Inspect BuildError where
  inspect
    | missingTable => "MissingTable".toList
    | markerMismatch mismatch =>
        Inspect.record "PlaceholderMismatch"
          [("clause", inspect mismatch.clause), ("placeholders", inspect mismatch.markers),
            ("values", inspect mismatch.values)]

end BuildError

end PreparedCql
