/-!
# Shipped recipes

The recipes that come with an installation, as the texts of their files.
-/

namespace DeploymentRecipes.Shipped

/-- The recipe for a web application in a container on Fargate. -/
def ecsFargate : String := r#"id: AspNetAppEcsFargate
version: 1.0.0
name: ASP.NET Core App to Amazon ECS using AWS Fargate
deploymentType: CdkProject
deploymentBundleType: Container
cdkProjectTemplate: ../CdkTemplates/AspNetAppEcsFargate
cdkProjectTemplateId: netdeploy.AspNetAppEcsFargate
description: >-
  This ASP.NET Core application will be deployed to Amazon Elastic Container
  Service (Amazon ECS) with compute power managed by AWS Fargate.
shortDescription: ASP.NET Core application deployed to Amazon ECS on AWS Fargate.
targetService: Amazon Elastic Container Service

optionSettings:
  - id: ECSCluster
    name: ECS Cluster
    description: The ECS cluster used for the deployment.
    type: Object
    updatable: false
    childOptionSettings:
      - id: CreateNew
        name: Create New ECS Cluster
        type: Bool
        defaultValue: true
      - id: ClusterArn
        name: Existing Cluster ARN
        type: String
        defaultValue: "arn:aws:ecs:{Region}:{AccountId}:cluster/default"
        dependsOn:
          - id: ECSCluster.CreateNew
            value: false
        validators:
          - kind: Regex
            configuration:
              regex: "^arn:[^:]+:ecs:[^:]*:[0-9]{12}:cluster/.+$"
              validationFailedMessage: Invalid cluster Arn.

  - id: ApplicationIAMRole
    name: Application IAM Role
    type: Object
    childOptionSettings:
      - id: CreateNew
        name: Create New Role
        type: Bool
        defaultValue: true
      - id: RoleArn
        name: Existing Role ARN
        type: String
        defaultValue: "arn:aws:iam::{AccountId}:role/{StackName}-task"
        dependsOn:
          - id: ApplicationIAMRole.CreateNew
            value: false

  - id: DesiredCount
    name: Desired Task Count
    type: Int
    defaultValue: 3
    advanced: true
    validators:
      - kind: Range
        configuration:
          min: 1
          max: 5000

  - id: AutoScalingMinCapacity
    name: Minimum Capacity
    type: Int
    defaultValue: 1
    advanced: true
  - id: AutoScalingMaxCapacity
    name: Maximum Capacity
    type: Int
    defaultValue: 3
    advanced: true

  - id: TaskCpu
    name: Task CPU
    type: String
    defaultValue: "256"
    advanced: true
  - id: TaskMemory
    name: Task Memory
    type: String
    defaultValue: "512"
    advanced: true

  - id: ECSServiceName
    name: ECS Service Name
    type: String
    defaultValue: "{StackName}-service"
    validators:
      - kind: Required
      - kind: Regex
        configuration:
          regex: "^([A-Za-z0-9_-]{1,255})$"
          validationFailedMessage: Invalid service name.

  - id: EnvironmentVariables
    name: Environment Variables
    type: KeyValue
    defaultValue: {}
    advanced: true

validators:
  - kind: FargateTaskSizeCpuMemoryLimits
  - kind: MinMaxConstraint
    configuration:
      minValueOptionSettingsId: AutoScalingMinCapacity
      maxValueOptionSettingsId: AutoScalingMaxCapacity
"#

/-- The recipe for a web application on Elastic Beanstalk. -/
def elasticBeanstalkLinux : String := r#"id: AspNetAppElasticBeanstalkLinux
version: 1.0.0
name: ASP.NET Core App to AWS Elastic Beanstalk on Linux
deploymentType: CdkProject
deploymentBundleType: DotnetPublishZipFile
cdkProjectTemplate: ../CdkTemplates/AspNetAppElasticBeanstalkLinux
cdkProjectTemplateId: netdeploy.AspNetAppElasticBeanstalkLinux
description: >-
  This ASP.NET Core application will be built and deployed to AWS Elastic
  Beanstalk on Linux.
shortDescription: ASP.NET Core application deployed to AWS Elastic Beanstalk on Linux.
targetService: AWS Elastic Beanstalk

optionSettings:
  - id: BeanstalkApplication
    name: Application Name
    type: Object
    updatable: false
    childOptionSettings:
      - id: CreateNew
        type: Bool
        defaultValue: true
      - id: ApplicationName
        type: String
        defaultValue: "{StackName}"
        dependsOn:
          - id: BeanstalkApplication.CreateNew
            value: true
        validators:
          - kind: StringLength
            configuration:
              minLength: 1
              maxLength: 100

  - id: EnvironmentType
    name: Environment Type
    type: String
    defaultValue: SingleInstance

  - id: LoadBalancerType
    name: Load Balancer Type
    type: String
    defaultValue: application
    dependsOn:
      - id: EnvironmentType
        value: LoadBalanced

  - id: ElasticBeanstalkEnvironmentVariables
    name: Environment Variables
    type: KeyValue
    defaultValue: {}
    advanced: true
"#

/-- The names of the files and their texts. -/
def files : List (String × String) := [
  ("AspNetAppEcsFargate.yaml", ecsFargate),
  ("AspNetAppElasticBeanstalkLinux.yaml", elasticBeanstalkLinux)]

end DeploymentRecipes.Shipped
