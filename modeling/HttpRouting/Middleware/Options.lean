import HttpRouting.Json.Access
import HttpRouting.Middleware.Cors
import HttpRouting.Middleware.Logging

/-! # Options of middleware from JSON

The options of the middleware that have any, read from JSON objects such as a program's settings hold.
A field that is missing has its default.
-/

namespace HttpRouting

/-- The origins that a value names: all, one, or several. -/
def OriginRule.read : Option Json → OriginRule
  | Option.none | some (.string "*") => .any
  | some (.string origin) => .exact origin
  | some (.array origins) => .oneOf (origins.filterMap Json.string?)
  | some _ => .none

def CorsOptions.read (value : Json) : CorsOptions :=
  let default : CorsOptions := {}
  { origin := .read (value.given? "origin")
    methods := value.texts "methods" default.methods
    allowedHeaders := value.texts "allowedHeaders" default.allowedHeaders
    exposedHeaders := value.texts "exposedHeaders" default.exposedHeaders
    credentials := value.flag "credentials" default.credentials
    maxAge := (value.given? "maxAge").elim default.maxAge fun held => held.number?.getD 0 }

def LoggingOptions.read (value : Json) (logger : Option Logger := none) : LoggingOptions :=
  let default : LoggingOptions := {}
  { logger
    logRequest := value.flag "logRequest" default.logRequest
    logResponse := value.flag "logResponse" default.logResponse
    logHeaders := value.flag "logHeaders" default.logHeaders
    excludePaths := value.texts "excludePaths" default.excludePaths }

end HttpRouting
