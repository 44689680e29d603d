import SqlGateway.Engine
import SqlGateway.Value.Basic

/-
  This file defines the statements that the gateway sends on
  its own: the probe of a new session and the queries to the
  catalog.  Names travel as parameters only.

  Key definitions include:
    * `probe`
    * `listDatabases`
    * `listTables`
    * `describeTable`
-/

namespace SqlGateway

namespace CatalogQuery

/- The statement that tries a new session. -/
def probe : String := "SELECT 1"

/- The user databases of a server, by name. -/
def listDatabases : Engine → String
  | .sqlServer =>
      "SELECT name
                FROM sys.databases
                WHERE name NOT IN ('master', 'tempdb', 'model', 'msdb')
                  AND state_desc = 'ONLINE'
                ORDER BY name"
  | .postgres =>
      "SELECT datname AS name
                FROM pg_database
                WHERE datistemplate = false AND datallowconn = true
                ORDER BY datname"

/- The tables and views of a database, by schema and name. -/
def listTables : Engine → String
  | .sqlServer =>
      "SELECT TABLE_SCHEMA AS [schema], TABLE_NAME AS name,
                       CASE TABLE_TYPE WHEN 'BASE TABLE' THEN 'TABLE' ELSE 'VIEW' END AS type
                FROM INFORMATION_SCHEMA.TABLES
                ORDER BY TABLE_SCHEMA, TABLE_NAME"
  | .postgres =>
      "SELECT table_schema AS schema, table_name AS name,
                       CASE table_type WHEN 'BASE TABLE' THEN 'TABLE' ELSE 'VIEW' END AS type
                FROM information_schema.tables
                WHERE table_schema NOT IN ('pg_catalog', 'information_schema')
                ORDER BY table_schema, table_name"

/- The columns of a table, in their order. -/
def describeTable : Engine → String
  | .sqlServer =>
      "SELECT c.COLUMN_NAME AS name,
                       c.DATA_TYPE AS type,
                       CASE c.IS_NULLABLE WHEN 'YES' THEN 1 ELSE 0 END AS nullable,
                       c.CHARACTER_MAXIMUM_LENGTH AS max_length,
                       c.NUMERIC_PRECISION AS precision,
                       c.NUMERIC_SCALE AS scale,
                       c.COLUMN_DEFAULT AS default_value,
                       CASE WHEN pk.COLUMN_NAME IS NOT NULL THEN 1 ELSE 0 END AS is_primary_key,
                       CAST(ep.value AS NVARCHAR(4000)) AS comment
                FROM INFORMATION_SCHEMA.COLUMNS c
                LEFT JOIN (
                    SELECT ku.TABLE_SCHEMA, ku.TABLE_NAME, ku.COLUMN_NAME
                    FROM INFORMATION_SCHEMA.TABLE_CONSTRAINTS tc
                    JOIN INFORMATION_SCHEMA.KEY_COLUMN_USAGE ku
                      ON tc.CONSTRAINT_NAME = ku.CONSTRAINT_NAME
                     AND tc.TABLE_SCHEMA = ku.TABLE_SCHEMA
                    WHERE tc.CONSTRAINT_TYPE = 'PRIMARY KEY'
                ) pk ON c.TABLE_SCHEMA = pk.TABLE_SCHEMA
                    AND c.TABLE_NAME = pk.TABLE_NAME
                    AND c.COLUMN_NAME = pk.COLUMN_NAME
                LEFT JOIN sys.extended_properties ep
                  ON ep.class = 1
                 AND ep.major_id = OBJECT_ID(QUOTENAME(?) + '.' + QUOTENAME(?))
                 AND ep.minor_id = COLUMNPROPERTY(ep.major_id, c.COLUMN_NAME, 'ColumnId')
                 AND ep.name = 'MS_Description'
                WHERE c.TABLE_SCHEMA = ? AND c.TABLE_NAME = ?
                ORDER BY c.ORDINAL_POSITION"
  | .postgres =>
      "SELECT c.column_name AS name,
                       c.data_type AS type,
                       c.is_nullable = 'YES' AS nullable,
                       c.character_maximum_length AS max_length,
                       c.numeric_precision AS precision,
                       c.numeric_scale AS scale,
                       c.column_default AS default_value,
                       EXISTS (
                           SELECT 1
                           FROM information_schema.table_constraints tc
                           JOIN information_schema.key_column_usage kcu
                             ON tc.constraint_name = kcu.constraint_name
                            AND tc.table_schema = kcu.table_schema
                            AND tc.table_name = kcu.table_name
                           WHERE tc.constraint_type = 'PRIMARY KEY'
                             AND tc.table_schema = c.table_schema
                             AND tc.table_name = c.table_name
                             AND kcu.column_name = c.column_name
                       ) AS is_primary_key,
                       col_description(
                           (quote_ident(c.table_schema) || '.' || quote_ident(c.table_name))::regclass,
                           c.ordinal_position
                       ) AS comment
                FROM information_schema.columns c
                WHERE c.table_schema = %s AND c.table_name = %s
                ORDER BY c.ordinal_position"

/-
  The parameters of the query for columns; the query of SQL
  Server names schema and table twice.
-/
def describeParameters
    (schema table : String) : Engine → List Value
  | .sqlServer =>
      [.text schema, .text table, .text schema, .text table]
  | .postgres => [.text schema, .text table]

end CatalogQuery

end SqlGateway
