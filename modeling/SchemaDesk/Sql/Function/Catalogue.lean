import SchemaDesk.Sql.Function.Signature
/-!
The functions that are called and written in the same way in all dialects, except that one of several
names is preferred.
-/

namespace SchemaDesk.Sql.Function

open Signature

/-- Functions of numbers. -/
def ofNumbers : List Signature := [
  fixed "abs" ["ABS"] 1, fixed "cbrt" ["CBRT"] 1, fixed "exp" ["EXP"] 1, fixed "ln" ["LN"] 1,
  fixed "sqrt" ["SQRT"] 1, fixed "ceil" ["CEIL", "CEILING"] 3, fixed "floor" ["FLOOR"] 3,
  fixed "sign" ["SIGN", "SIGNUM"] 1, fixed "round" ["ROUND"] 3,
  fixed "safedivide" ["SAFE_DIVIDE"] 2, fixed "unhex" ["UNHEX"] 2, fixed "md5" ["MD5"] 1,
  fixed "md5digest" ["MD5_DIGEST"] 1, fixed "sha" ["SHA", "SHA1"] 1,
  fixed "isnan" ["IS_NAN", "ISNAN"] 1, fixed "isinf" ["IS_INF", "ISINF"] 1,
  fixed "int64" ["INT64"] 1, fixed "randn" ["RANDN"] 1, fixed "todouble" ["TO_DOUBLE"] 2,
  fixed "frombase" ["FROM_BASE"] 2, fixed "nullif" ["NULLIF"] 2,
  variadic "coalesce" ["COALESCE", "IFNULL", "NVL"]]

/-- Functions of texts. -/
def ofTexts : List Signature := [
  fixed "upper" ["UPPER", "UCASE"] 1, fixed "lower" ["LOWER", "LCASE"] 1,
  fixed "initcap" ["INITCAP"] 2, fixed "left" ["LEFT"] 2, fixed "right" ["RIGHT"] 2,
  fixed "repeat" ["REPEAT"] 2, fixed "replace" ["REPLACE"] 3, fixed "soundex" ["SOUNDEX"] 1,
  fixed "split" ["SPLIT"] 3, fixed "splitpart" ["SPLIT_PART"] 3,
  fixed "startswith" ["STARTS_WITH", "STARTSWITH"] 2, fixed "contains" ["CONTAINS"] 2,
  fixed "encode" ["ENCODE"] 2,
  fixed "frombase64" ["FROM_BASE64"] 1, fixed "tobase64" ["TO_BASE64"] 1,
  fixed "regexpreplace" ["REGEXP_REPLACE"] 6, fixed "regexpextract" ["REGEXP_EXTRACT"] 6,
  fixed "regexpextractall" ["REGEXP_EXTRACT_ALL"] 6, fixed "regexpsplit" ["REGEXP_SPLIT"] 3,
  fixed "regexpinstr" ["REGEXP_INSTR"] 7, fixed "standardhash" ["STANDARD_HASH"] 2,
  fixed "strtomap" ["STR_TO_MAP"] 4, fixed "numbertostr" ["NUMBER_TO_STR"] 3,
  scattered "concatws" ["CONCAT_WS"] none]

/-- Functions of all rows of a group or of a window. -/
def ofRows : List Signature := [
  variadic "count" ["COUNT"], fixed "sum" ["SUM"] 1, fixed "avg" ["AVG"] 1,
  fixed "stddev" ["STDDEV", "STDEV"] 1, fixed "stddevpop" ["STDDEV_POP"] 1,
  fixed "stddevsamp" ["STDDEV_SAMP"] 1, fixed "corr" ["CORR"] 2,
  fixed "covarpop" ["COVAR_POP"] 2, fixed "covarsamp" ["COVAR_SAMP"] 2,
  fixed "quantile" ["QUANTILE"] 2, fixed "approxquantile" ["APPROX_QUANTILE"] 4,
  fixed "approxdistinct" ["APPROX_DISTINCT", "APPROX_COUNT_DISTINCT"] 2, variadic "hll" ["HLL"],
  fixed "argmax" ["ARG_MAX", "ARGMAX", "MAX_BY"] 3,
  fixed "argmin" ["ARG_MIN", "ARGMIN", "MIN_BY"] 3, fixed "first" ["FIRST"] 1,
  fixed "last" ["LAST"] 1, fixed "firstvalue" ["FIRST_VALUE"] 1,
  fixed "lastvalue" ["LAST_VALUE"] 1, fixed "nthvalue" ["NTH_VALUE"] 2, fixed "lag" ["LAG"] 3,
  fixed "lead" ["LEAD"] 3, fixed "rownumber" ["ROW_NUMBER"] 1,
  fixed "arrayunionagg" ["ARRAY_UNION_AGG"] 1, fixed "arrayuniqueagg" ["ARRAY_UNIQUE_AGG"] 1,
  fixed "arrayconcatagg" ["ARRAY_CONCAT_AGG"] 1]

/-- Functions of dates and times. -/
def ofTimes : List Signature := [
  variadic "date" ["DATE"], fixed "datetime" ["DATETIME"] 2, fixed "time" ["TIME"] 2,
  fixed "timestamp" ["TIMESTAMP"] 3, fixed "day" ["DAY"] 1, fixed "month" ["MONTH"] 1,
  fixed "year" ["YEAR"] 1, fixed "week" ["WEEK"] 2, fixed "quarter" ["QUARTER"] 1,
  fixed "dayofweek" ["DAY_OF_WEEK", "DAYOFWEEK"] 1,
  fixed "dayofmonth" ["DAY_OF_MONTH", "DAYOFMONTH"] 1,
  fixed "dayofyear" ["DAY_OF_YEAR", "DAYOFYEAR"] 1,
  fixed "dayofweekiso" ["DAYOFWEEK_ISO", "ISODOW"] 1,
  fixed "weekofyear" ["WEEK_OF_YEAR", "WEEKOFYEAR"] 1, fixed "todays" ["TO_DAYS"] 1,
  fixed "addmonths" ["ADD_MONTHS"] 2, fixed "monthsbetween" ["MONTHS_BETWEEN"] 3,
  timed "lastday" ["LAST_DAY", "LAST_DAY_OF_MONTH"] 2 1,
  timed "dateadd" ["DATE_ADD"] 3 2, timed "datesub" ["DATE_SUB"] 3 2,
  timed "datediff" ["DATEDIFF", "DATE_DIFF"] 3 2,
  timed "datetimeadd" ["DATETIME_ADD"] 3 2, timed "datetimesub" ["DATETIME_SUB"] 3 2,
  timed "datetimediff" ["DATETIME_DIFF"] 3 2, timed "datetimetrunc" ["DATETIME_TRUNC"] 3 1,
  timed "timestampadd" ["TIMESTAMP_ADD"] 3 2, timed "timestampsub" ["TIMESTAMP_SUB"] 3 2,
  timed "timestampdiff" ["TIMESTAMPDIFF", "TIMESTAMP_DIFF"] 3 2,
  timed "timestamptrunc" ["TIMESTAMP_TRUNC"] 3 1, timed "timeadd" ["TIME_ADD"] 3 2,
  timed "timesub" ["TIME_SUB"] 3 2, timed "timediff" ["TIME_DIFF"] 3 2,
  timed "timetrunc" ["TIME_TRUNC"] 3 1,
  scattered "datefromparts" ["DATE_FROM_PARTS", "DATEFROMPARTS"] (some 3),
  scattered "makeinterval" ["MAKE_INTERVAL"] (some 7),
  scattered "generateseries" ["GENERATE_SERIES"] (some 4)]

/-- Functions of arrays and of JSON values. -/
def ofCollections : List Signature := [
  fixed "arraycontains" ["ARRAY_CONTAINS", "ARRAY_HAS"] 2, fixed "arrayall" ["ARRAY_ALL"] 2,
  fixed "arrayany" ["ARRAY_ANY"] 2, fixed "arraysort" ["ARRAY_SORT"] 2,
  fixed "arraysum" ["ARRAY_SUM"] 2, fixed "sortarray" ["SORT_ARRAY"] 2,
  fixed "arraytostring" ["ARRAY_TO_STRING", "ARRAY_JOIN"] 3,
  fixed "stringtoarray" ["STRING_TO_ARRAY", "SPLIT_BY_STRING", "STRTOK_TO_ARRAY"] 3,
  variadic "explode" ["EXPLODE"], fixed "flatten" ["FLATTEN"] 1, fixed "toarray" ["TO_ARRAY"] 1,
  scattered "list" ["LIST"] none,
  fixed "jsonformat" ["JSON_FORMAT"] 3, fixed "jsontype" ["JSON_TYPE"] 2,
  fixed "jsonbexists" ["JSONB_EXISTS"] 2, fixed "exists" ["EXISTS"] 2]

def catalogue : List Signature :=
  ofNumbers ++ ofTexts ++ ofRows ++ ofTimes ++ ofCollections

/-- The function that is called by a name. -/
def signature? (name : String) : Option Signature := catalogue.find? (·.names.contains name)

end SchemaDesk.Sql.Function
