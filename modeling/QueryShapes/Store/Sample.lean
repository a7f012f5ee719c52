import QueryShapes.Number.Reading
import QueryShapes.Store.Basic

/-!
# The sample store

Ten small relations of a company, a weather station, a game and a shop.

- `sample_accepted`: the sample passes the rules of `Store.ofRelations`.
-/

namespace QueryShapes.Sample

/-- One value of a record. -/
def int (n : Nat) : Value := .integer (Int64.ofNat n)

/-- An amount of money, given in cents. -/
def cents (n : Nat) : Value := .decimal (.ofDecimal false n (-2))

/-- A relation of records that list their values in the order of `columns`. -/
def relation (name : String) (columns : List String) (records : List (List Value)) : Relation :=
  ⟨name, records.map fun values => .ofList (columns.zip values)⟩

def departments : Relation :=
  relation "departments" ["id", "name", "location"] [
    [int 1, .text "Engineering", .text "Building A"],
    [int 2, .text "Sales", .text "Building B"],
    [int 3, .text "Marketing", .text "Building C"],
    [int 4, .text "HR", .text "Building D"]]

def employee (id : Nat) (name email : String) (department salary : Nat) (hired : String)
    (active : Bool) : List Value :=
  [int id, .text name, .text email, int department, int salary, .date hired, .boolean active]

def employees : Relation :=
  relation "employees"
    ["id", "name", "email", "department_id", "salary", "hire_date", "is_active"] [
    employee 1 "Alice Johnson" "alice@example.com" 1 75000 "2020-01-15" true,
    employee 2 "Bob Smith" "bob@example.com" 1 80000 "2019-03-22" true,
    employee 3 "Carol White" "carol@example.com" 2 65000 "2021-06-10" true,
    employee 4 "David Brown" "david@example.com" 1 70000 "2022-02-28" true,
    employee 5 "Eve Davis" "eve@example.com" 3 60000 "2020-11-05" false,
    employee 6 "Frank Miller" "frank@example.com" 2 72000 "2018-07-19" true,
    employee 7 "Grace Lee" "grace@example.com" 4 55000 "2023-01-09" true,
    employee 8 "Henry Wilson" "henry@example.com" 3 58000 "2021-09-14" true]

def projects : Relation :=
  relation "projects" ["id", "name", "department_id", "budget", "start_date"] [
    [int 1, .text "Website Redesign", int 1, cents 12500050, .date "2023-01-10"],
    [int 2, .text "Mobile App", int 1, cents 20000075, .date "2023-03-15"],
    [int 3, .text "Sales Portal", int 2, cents 8000025, .date "2023-05-01"],
    [int 4, .text "Brand Campaign", int 3, cents 4500050, .date "2023-07-20"]]

def employeeProjects : Relation :=
  relation "employee_projects" ["id", "employee_id", "project_id", "role"] [
    [int 1, int 1, int 1, .text "Lead"],
    [int 2, int 2, int 1, .text "Developer"],
    [int 3, int 4, int 2, .text "Lead"],
    [int 4, int 2, int 2, .text "Developer"],
    [int 5, int 3, int 3, .text "Lead"],
    [int 6, int 6, int 3, .text "Analyst"],
    [int 7, int 5, int 4, .text "Lead"],
    [int 8, int 8, int 4, .text "Designer"]]

def logs : Relation :=
  relation "logs" ["id", "num"] [
    [int 1, int 1], [int 2, int 1], [int 3, int 1], [int 4, int 2],
    [int 5, int 1], [int 6, int 2], [int 7, int 2]]

def weather : Relation :=
  relation "weather" ["id", "record_date", "temperature"] [
    [int 1, .date "2024-01-01", int 10],
    [int 2, .date "2024-01-02", int 25],
    [int 3, .date "2024-01-03", int 20],
    [int 4, .date "2024-01-04", int 30]]

def activity : Relation :=
  relation "activity" ["id", "player_id", "device_id", "event_date", "games_played"] [
    [int 1, int 1, int 2, .date "2016-03-01", int 5],
    [int 2, int 1, int 2, .date "2016-05-02", int 6],
    [int 3, int 2, int 3, .date "2017-06-25", int 1],
    [int 4, int 3, int 1, .date "2016-03-02", int 0],
    [int 5, int 3, int 4, .date "2018-07-03", int 5]]

def customers : Relation :=
  relation "customers" ["id", "name", "email", "city", "is_premium"] [
    [int 1, .text "Acme Corp", .text "orders@acme.test", .text "Berlin", .boolean true],
    [int 2, .text "Globex", .text "buy@globex.test", .text "Madrid", .boolean false],
    [int 3, .text "Initech", .text "purchasing@initech.test", .text "Austin", .boolean true],
    [int 4, .text "Umbrella", .text "supply@umbrella.test", .text "Oslo", .boolean false]]

def products : Relation :=
  relation "products" ["id", "name", "category", "price", "in_stock"] [
    [int 1, .text "Laptop", .text "Electronics", cents 129999, .boolean true],
    [int 2, .text "Desk Chair", .text "Furniture", cents 24950, .boolean true],
    [int 3, .text "Monitor", .text "Electronics", cents 32995, .boolean false],
    [int 4, .text "Notebook", .text "Stationery", cents 425, .boolean true],
    [int 5, .text "Standing Desk", .text "Furniture", cents 59999, .boolean true]]

def order (id customer product quantity total : Nat) (date status : String) : List Value :=
  [int id, int customer, int product, int quantity, cents total, .date date, .text status]

def orders : Relation :=
  relation "orders"
    ["id", "customer_id", "product_id", "quantity", "total", "order_date", "status"] [
    order 1 1 1 2 259998 "2024-02-01" "shipped",
    order 2 2 4 10 4250 "2024-02-03" "delivered",
    order 3 1 3 1 32995 "2024-02-10" "pending",
    order 4 3 2 4 99800 "2024-02-14" "shipped",
    order 5 4 5 1 59999 "2024-03-01" "cancelled",
    order 6 3 1 1 129999 "2024-03-05" "pending"]

/-- The sample relations in the order in which they are listed. -/
def relations : List Relation :=
  [departments, employees, projects, employeeProjects, logs, weather, activity, customers,
    products, orders]

def store : Store := ⟨relations⟩

theorem sample_accepted : Store.ofRelations relations = .ok store := by rfl

end QueryShapes.Sample
